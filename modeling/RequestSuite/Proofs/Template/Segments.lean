import RequestSuite.Proofs.Fallible
import RequestSuite.Proofs.NameMap
import RequestSuite.Proofs.Text.Cuts
import RequestSuite.Template.PathParameter

/-! Path parameters by the segments of a URL. One pass that takes a slash together with the parameter
behind it fills the segments one by one: adjacent parameters, empty segments, ports and colons later
in a segment make no difference to it. -/
namespace RequestSuite.Template.PathParameter
open Text

structure Token (segment name rest : List Char) : Prop where
  split : segment = ':' :: name ++ rest
  start : ∃ c, name.head? = some c ∧ isNameStart c = true
  parts : ∀ c ∈ name, isNamePart c = true
  longest : ∀ c, rest.head? = some c → isNamePart c = false

inductive Becomes (declared : List (String × String)) : List Char → List Char → Prop where
  | token {segment name rest value} (token : Token segment name rest)
      (found : NameMap.lastOf declared (String.ofList name) = some value) :
      Becomes declared segment (value.toList ++ rest)
  | other {segment} (none : ∀ name rest, ¬ Token segment name rest) :
      Becomes declared segment segment

def Undeclared (declared : List (String × String)) (segment : List Char) (name : String) : Prop :=
  ∃ rest, Token segment name.toList rest ∧ ∀ entry ∈ declared, entry.1 ≠ name

def FirstUndeclared (declared : List (String × String)) (url name : String) : Prop :=
  ∃ before segment after, splitAt '/' url.toList = before ++ segment :: after ∧
    Undeclared declared segment name ∧
      ∀ earlier ∈ before, ∀ other, ¬ Undeclared declared earlier other

theorem namePart {c : Char} (start : isNameStart c = true) : isNamePart c = true := by
  simp only [isNameStart, isNamePart, Char.isAlphanum, Bool.or_eq_true] at start ⊢
  exact start.imp_left Or.inl

theorem atSegmentToken {text name rest : List Char} :
    atSegment text = some (name, rest) ↔ Token text name rest := by
  constructor
  · intro found
    unfold atSegment at found
    split at found
    · rename_i c more
      split at found
      · rename_i start
        obtain ⟨rfl, rfl⟩ := Prod.mk.inj (Option.some.inj found)
        refine ⟨?_, ⟨c, rfl, start⟩, ?_, fun d next => ?_⟩
        · rw [List.cons_append, List.cons_append, List.takeWhile_append_dropWhile]
        · exact List.forall_mem_cons.2 ⟨namePart start, fun d => List.mem_takeWhile_imp⟩
        · have ends := List.head?_dropWhile_not isNamePart more
          rw [next] at ends
          simpa using ends
      · contradiction
    · contradiction
  · rintro ⟨rfl, ⟨c, first, start⟩, parts, longest⟩
    obtain ⟨more, rfl⟩ := List.head?_eq_some_iff.1 first
    have inside := (List.forall_mem_cons.1 parts).2
    have stop : rest.takeWhile isNamePart = [] ∧ rest.dropWhile isNamePart = rest := by
      cases rest with
      | nil => exact ⟨rfl, rfl⟩
      | cons d rest => simp [longest d rfl]
    rw [List.cons_append, List.cons_append, atSegment, if_pos start,
      List.takeWhile_append_of_pos inside, List.dropWhile_append_of_pos inside, stop.1, stop.2,
      List.append_nil]

/- What comes after a name in any case: the slash before the next segment, or the mark of a query or of
a fragment. -/
def isBreak (c : Char) : Bool := c = '/' || c = '?' || c = '#'

theorem breakOther {c : Char} (breaks : isBreak c = true) : isNamePart c = false ∧ c ≠ ':' := by
  simp only [isBreak, Bool.or_eq_true, decide_eq_true_eq] at breaks
  rcases breaks with (rfl | rfl) | rfl <;> decide

section
variable {segment name rest after : List Char}
  (ends : ∀ c, after.head? = some c → isBreak c = true)
include ends

theorem Token.before (token : Token segment name rest) :
    Token (segment ++ after) name (rest ++ after) := by
  refine ⟨by rw [token.split, List.append_assoc], token.start, token.parts, fun c next => ?_⟩
  cases rest with
  | nil => exact (breakOther (ends c next)).1
  | cons d rest => exact token.longest c next

theorem Token.inside (token : Token (segment ++ after) name rest) :
    ∃ left, Token segment name left := by
  rcases List.append_eq_append_iff.1 token.split with ⟨extra, split, more⟩ | ⟨left, split, more⟩
  · cases extra with
    | nil =>
      rw [List.append_nil] at split
      exact ⟨[], by rw [List.append_nil, split], token.start, token.parts, nofun⟩
    | cons d extra =>
      obtain ⟨outside, other⟩ := breakOther (ends d (by rw [more]; rfl))
      have member : d ∈ ':' :: name := split ▸ List.mem_append_right segment List.mem_cons_self
      have part := token.parts d ((List.mem_cons.1 member).resolve_left other)
      rw [outside] at part
      contradiction
  · refine ⟨left, split, token.start, token.parts, fun c next => token.longest c ?_⟩
    rw [more, List.head?_append, next]
    rfl

theorem atSegmentBefore :
    atSegment (segment ++ after) =
      (atSegment segment).map fun found => (found.1, found.2 ++ after) := by
  cases found : atSegment segment with
  | some token => exact atSegmentToken.2 ((atSegmentToken.1 found).before ends)
  | none =>
    refine Option.eq_none_iff_forall_ne_some.2 fun token reached => ?_
    obtain ⟨left, inside⟩ := (atSegmentToken.1 reached).inside ends
    rw [atSegmentToken.2 inside] at found
    contradiction

end

section
variable (declared : List (String × String))

def fillSegment (segment : List Char) : Except MissingParameter (List Char) :=
  match atSegment segment with
  | some (name, rest) => (fill declared (.hit ([], name))).map (· ++ rest)
  | none => .ok segment

def fillAll (pieces : List (Piece (List Char × List Char))) : Except MissingParameter (List Char) :=
  (pieces.mapM (fill declared)).map List.flatten

def opened (slash text : List Char) : List (Piece (List Char × List Char)) :=
  match atSegment text with
  | some (name, after) => .hit (slash, name) :: scan afterSlash after
  | none => slash.map .plain ++ scan afterSlash text

theorem fillAllNext (piece : Piece (List Char × List Char))
    (pieces : List (Piece (List Char × List Char))) :
    fillAll declared (piece :: pieces) =
      (fill declared piece).bind fun front => (fillAll declared pieces).map (front ++ ·) := by
  rw [fillAll, mapStep]
  cases fill declared piece with
  | error e => rfl
  | ok front =>
    rw [fillAll]
    cases pieces.mapM (fill declared) <;> rfl

theorem fillAllPlain (text : List Char) (pieces : List (Piece (List Char × List Char))) :
    fillAll declared (text.map .plain ++ pieces) = (fillAll declared pieces).map (text ++ ·) := by
  induction text with
  | nil => cases found : fillAll declared pieces <;> simp [found, Except.map]
  | cons c text ih =>
    rw [List.map_cons, List.cons_append, fillAllNext, ih, fill]
    cases fillAll declared pieces <;> rfl

theorem scanUnslashed {text : List Char} (absent : '/' ∉ text) (after : List Char) :
    scan afterSlash (text ++ after) = text.map .plain ++ scan afterSlash after := by
  induction text with
  | nil => rfl
  | cons c text ih =>
    obtain ⟨other, later⟩ : c ≠ '/' ∧ '/' ∉ text := by simpa [eq_comm] using absent
    have missed : afterSlash (c :: (text ++ after)) = none := by
      unfold afterSlash
      split
      · exact absurd (List.cons.inj (by assumption)).1 other
      · rfl
    rw [List.cons_append, scanMiss missed, ih later]
    rfl

theorem scanSlash (text : List Char) :
    scan afterSlash ('/' :: text) = opened ['/'] text := by
  rw [opened]
  cases found : atSegment text with
  | none =>
    have missed : afterSlash ('/' :: text) = none := by rw [afterSlash, found]; rfl
    exact scanMiss missed
  | some token =>
    have hit : afterSlash ('/' :: text) = some ((['/'], token.1), token.2) := by
      rw [afterSlash, found]
      rfl
    refine scanHit hit ⟨':' :: token.1, ?_⟩
    exact (atSegmentToken.1 found).split.symm

theorem fillOpened {segment after : List Char} (slash : List Char) (absent : '/' ∉ segment)
    (ends : ∀ c, after.head? = some c → isBreak c = true) :
    fillAll declared (opened slash (segment ++ after)) =
      (fillSegment declared segment).bind fun front =>
        (fillAll declared (scan afterSlash after)).map (slash ++ front ++ ·) := by
  rw [opened, atSegmentBefore ends, fillSegment]
  cases found : atSegment segment with
  | none =>
    simp only [Option.map_none]
    rw [fillAllPlain, scanUnslashed absent, fillAllPlain]
    cases fillAll declared (scan afterSlash after) with
    | error e => rfl
    | ok back => simp [Except.map, Except.bind]
  | some token =>
    have inside : '/' ∉ token.2 := by
      rw [(atSegmentToken.1 found).split] at absent
      exact fun member => absent (List.mem_append_right _ member)
    simp only [Option.map_some]
    rw [fillAllNext, scanUnslashed inside, fillAllPlain, fill, fill]
    cases value? declared (String.ofList token.1) with
    | none => rfl
    | some value =>
      cases fillAll declared (scan afterSlash after) with
      | error e => rfl
      | ok back => simp [Except.map, Except.bind]

theorem slashFirst (segments : List (List Char)) (c : Char)
    (first : (segments.flatMap (['/'] ++ ·)).head? = some c) : isBreak c = true := by
  cases segments with
  | nil => contradiction
  | cons segment segments =>
    rw [← Option.some.inj first]
    rfl

theorem fillLater {segments : List (List Char)} (absent : ∀ segment ∈ segments, '/' ∉ segment) :
    fillAll declared (scan afterSlash (segments.flatMap (['/'] ++ ·))) =
      (segments.mapM (fillSegment declared)).map fun filled => filled.flatMap (['/'] ++ ·) := by
  induction segments with
  | nil => rfl
  | cons segment segments ih =>
    obtain ⟨here, later⟩ := List.forall_mem_cons.1 absent
    rw [List.flatMap_cons, List.append_assoc, List.singleton_append, scanSlash,
      fillOpened declared ['/'] here (slashFirst segments), ih later, mapStep]
    cases fillSegment declared segment with
    | error e => rfl
    | ok front => cases segments.mapM (fillSegment declared) <;> simp [Except.map, Except.bind]

theorem resolveOpened (url : String) :
    resolve declared url = (fillAll declared (opened [] url.toList)).map String.ofList := by
  have same : pieces url.toList = opened [] url.toList := by
    rw [pieces, opened]
    cases atSegment url.toList <;> rfl
  rw [resolve, fillAll, same]
  cases (opened [] url.toList).mapM (fill declared) <;> rfl

/- The pass goes over the segments: each is filled by itself, and they are joined again. -/
theorem resolveSegments (url : String) :
    resolve declared url =
      ((splitAt '/' url.toList).mapM (fillSegment declared)).map fun filled =>
        String.ofList (joinWith ['/'] filled) := by
  have absent : ∀ segment ∈ splitAt '/' url.toList, '/' ∉ segment := fun _ => splitAtPart
  have whole := joinSplit '/' url.toList
  rw [resolveOpened]
  cases split : splitAt '/' url.toList with
  | nil => exact absurd split (splitAtNonempty '/' url.toList)
  | cons first rest =>
    rw [split] at absent whole
    obtain ⟨here, later⟩ := List.forall_mem_cons.1 absent
    rw [← whole, joinFirst, fillOpened declared [] here (slashFirst rest), fillLater declared later,
      mapStep]
    cases fillSegment declared first with
    | error e => rfl
    | ok front =>
      cases rest.mapM (fillSegment declared) with
      | error e => rfl
      | ok others => simp [Except.map, Except.bind, joinFirst]

theorem valueMissing {name : String} :
    value? declared name = none ↔ ∀ entry ∈ declared, entry.1 ≠ name := by
  have last : value? declared name = NameMap.lastOf declared name := rfl
  rw [last, ← Option.not_isSome_iff_eq_none, NameMap.lastOfIsSome]
  exact ⟨fun absent entry member same => absent ⟨entry, member, same⟩,
    fun others ⟨entry, member, same⟩ => others entry member same⟩

variable {declared}

theorem segmentToken {segment name rest : List Char} (token : Token segment name rest) :
    fillSegment declared segment =
      match value? declared (String.ofList name) with
      | some value => .ok (value.toList ++ rest)
      | none => .error ⟨String.ofList name⟩ := by
  rw [fillSegment, atSegmentToken.2 token]
  simp only [fill]
  cases value? declared (String.ofList name) <;> rfl

theorem segmentDone {segment result : List Char} :
    fillSegment declared segment = .ok result ↔ Becomes declared segment result := by
  constructor
  · intro done
    cases found : atSegment segment with
    | none =>
      rw [fillSegment, found] at done
      rw [← Except.ok.inj done]
      refine .other fun name rest token => ?_
      rw [atSegmentToken.2 token] at found
      contradiction
    | some found' =>
      have token := atSegmentToken.1 found
      rw [segmentToken token] at done
      cases known : value? declared (String.ofList found'.1) with
      | none =>
        rw [known] at done
        contradiction
      | some value =>
        rw [known] at done
        rw [← Except.ok.inj done]
        exact .token token known
  · intro becomes
    cases becomes with
    | token token found =>
      have known : value? declared _ = _ := found
      rw [segmentToken token, known]
    | other none =>
      have missed : atSegment segment = Option.none :=
        Option.eq_none_iff_forall_ne_some.2 fun found hit => none _ _ (atSegmentToken.1 hit)
      rw [fillSegment, missed]

theorem segmentStopped {segment : List Char} {missing : MissingParameter} :
    fillSegment declared segment = .error missing ↔ Undeclared declared segment missing.name := by
  constructor
  · intro stopped
    cases found : atSegment segment with
    | none =>
      rw [fillSegment, found] at stopped
      contradiction
    | some found' =>
      have token := atSegmentToken.1 found
      rw [segmentToken token] at stopped
      cases known : value? declared (String.ofList found'.1) with
      | some value =>
        rw [known] at stopped
        contradiction
      | none =>
        rw [known] at stopped
        rw [← Except.error.inj stopped]
        refine ⟨found'.2, ?_, (valueMissing declared).1 known⟩
        rw [String.toList_ofList]
        exact token
  · rintro ⟨rest, token, others⟩
    rw [segmentToken token, String.ofList_toList, (valueMissing declared).2 others]

theorem segmentDeclared {segment : List Char} :
    (∃ result, fillSegment declared segment = .ok result) ↔
      ∀ name, ¬ Undeclared declared segment name := by
  constructor
  · rintro ⟨result, done⟩ name undeclared
    have stopped : fillSegment declared segment = .error ⟨name⟩ := segmentStopped.2 undeclared
    rw [done] at stopped
    contradiction
  · intro others
    cases filled : fillSegment declared segment with
    | ok result => exact ⟨result, rfl⟩
    | error missing => exact absurd (segmentStopped.1 filled) (others missing.name)

theorem becomesFilled :
    Becomes declared = fun segment result => fillSegment declared segment = .ok result := by
  funext segment result
  exact propext segmentDone.symm

theorem resolveDone {url result : String} :
    resolve declared url = .ok result ↔
      ∃ filled, List.Forall₂ (Becomes declared) (splitAt '/' url.toList) filled ∧
        result = String.ofList (joinWith ['/'] filled) := by
  rw [becomesFilled, resolveSegments]
  simp only [← mapDone]
  cases (splitAt '/' url.toList).mapM (fillSegment declared) <;> simp [Except.map, eq_comm]

example : resolve [("id", "1"), ("id", "/:x")] "h:80//:id.json/:id:y" =
    .ok "h:80///:x.json//:x:y" := rfl

theorem resolveError {url : String} {missing : MissingParameter} :
    resolve declared url = .error missing ↔
      (splitAt '/' url.toList).mapM (fillSegment declared) = .error missing := by
  rw [resolveSegments]
  cases (splitAt '/' url.toList).mapM (fillSegment declared) <;> simp [Except.map]

theorem resolveStopped {url : String} {missing : MissingParameter} :
    resolve declared url = .error missing ↔ FirstUndeclared declared url missing.name := by
  rw [resolveError, mapStopped, FirstUndeclared]
  simp only [segmentStopped, segmentDeclared]

theorem resolveFails {url : String} :
    (∃ missing, resolve declared url = .error missing) ↔
      ∃ segment ∈ splitAt '/' url.toList, ∃ name, Undeclared declared segment name := by
  simp only [resolveError, mapFails, segmentStopped]
  exact exists_congr fun segment => and_congr_right fun _ =>
    ⟨fun ⟨missing, undeclared⟩ => ⟨missing.name, undeclared⟩,
      fun ⟨name, undeclared⟩ => ⟨⟨name⟩, undeclared⟩⟩

theorem undeclaredKeys (change : String × String → String) {segment : List Char} {name : String} :
    Undeclared (declared.map fun entry => (entry.1, change entry)) segment name ↔
      Undeclared declared segment name := by
  simp only [Undeclared, List.forall_mem_map]

end

end RequestSuite.Template.PathParameter
