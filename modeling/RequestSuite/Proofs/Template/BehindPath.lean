import RequestSuite.Proofs.Template.Segments
import RequestSuite.Proofs.Text.Passes

/-! Path parameters in what follows the path of a URL. A pass does not stop at the mark of a query
or of a fragment: it leaves that mark, and the text up to the next slash, as they are, and goes on
with the segments behind that slash as with those of the path. -/
namespace RequestSuite.Template.PathParameter
open Text

def Marked (rest : List Char) : Prop := ∃ c, rest.head? = some c ∧ (c = '?' ∨ c = '#')

theorem Marked.breaks {rest : List Char} (marked : Marked rest) (c : Char)
    (first : rest.head? = some c) : isBreak c = true := by
  obtain ⟨mark, here, kinds⟩ := marked
  rw [Option.some.inj (first.symm.trans here)]
  rcases kinds with rfl | rfl <;> rfl

theorem afterSlashForward : Forward afterSlash := by
  intro c rest value after found
  unfold afterSlash at found
  split at found
  · rename_i same
    obtain ⟨rfl, rfl⟩ := List.cons.inj same
    obtain ⟨token, here, same⟩ := Option.map_eq_some_iff.1 found
    obtain ⟨-, rfl⟩ := Prod.mk.inj same
    exact ⟨':' :: token.1, (atSegmentToken.1 here).split.symm⟩
  · contradiction

section
variable {after : List Char} (ends : ∀ c, after.head? = some c → isBreak c = true)
include ends

theorem afterSlashBefore (c : Char) (text : List Char) :
    afterSlash (c :: text ++ after) =
      (afterSlash (c :: text)).map fun found => (found.1, found.2 ++ after) := by
  by_cases slash : c = '/'
  · subst slash
    rw [List.cons_append, afterSlash, atSegmentBefore ends, afterSlash]
    cases atSegment text <;> rfl
  · have missed : ∀ more, afterSlash (c :: more) = none := by
      intro more
      unfold afterSlash
      split
      · exact absurd (List.cons.inj (by assumption)).1 slash
      · rfl
    rw [List.cons_append, missed, missed]
    rfl

theorem scanBefore (text : List Char) :
    scan afterSlash (text ++ after) = scan afterSlash text ++ scan afterSlash after := by
  induction text using passInduction afterSlashForward with
  | nil => rfl
  | miss c rest missed ih =>
    have missed' := afterSlashBefore ends c rest
    rw [missed] at missed'
    rw [List.cons_append] at missed' ⊢
    rw [scanMiss missed', scanMiss missed, ih]
    rfl
  | hit c rest value left found ih =>
    have found' := afterSlashBefore ends c rest
    rw [found] at found'
    rw [List.cons_append] at found' ⊢
    rw [scanHit found' (afterSlashForward found'), scanHit found (afterSlashForward found), ih]
    rfl

theorem openedBefore (text : List Char) :
    opened [] (text ++ after) = opened [] text ++ scan afterSlash after := by
  rw [opened, atSegmentBefore ends, opened]
  cases atSegment text with
  | none => exact scanBefore ends text
  | some found => exact congrArg (Piece.hit ([], found.1) :: ·) (scanBefore ends found.2)

end

section
variable (declared : List (String × String))

theorem fillAllAppend (front back : List (Piece (List Char × List Char))) :
    fillAll declared (front ++ back) =
      (fillAll declared front).bind fun filled => (fillAll declared back).map (filled ++ ·) := by
  induction front with
  | nil =>
    have none : fillAll declared [] = .ok [] := rfl
    rw [List.nil_append, none]
    cases fillAll declared back <;> rfl
  | cons piece front ih =>
    rw [List.cons_append, fillAllNext, fillAllNext, ih]
    cases fill declared piece with
    | error e => rfl
    | ok first =>
      cases fillAll declared front with
      | error e => rfl
      | ok others => cases fillAll declared back <;> simp [Except.map, Except.bind]

def fillBehind (rest : List Char) : Except MissingParameter (List Char) :=
  match splitAt '/' rest with
  | first :: later =>
    (later.mapM (fillSegment declared)).map fun filled => joinWith ['/'] (first :: filled)
  | [] => .ok []

theorem scanBehind (rest : List Char) :
    fillAll declared (scan afterSlash rest) = fillBehind declared rest := by
  have absent : ∀ segment ∈ splitAt '/' rest, '/' ∉ segment := fun _ => splitAtPart
  have whole := joinSplit '/' rest
  rw [fillBehind]
  cases split : splitAt '/' rest with
  | nil => exact absurd split (splitAtNonempty '/' rest)
  | cons first later =>
    rw [split] at absent whole
    obtain ⟨here, others⟩ := List.forall_mem_cons.1 absent
    rw [← whole, joinFirst, scanUnslashed here, fillAllPlain, fillLater declared others]
    dsimp only
    cases later.mapM (fillSegment declared) with
    | error e => rfl
    | ok filled => exact congrArg Except.ok (joinFirst ['/'] first filled).symm

/- A pass over a URL is a pass over its path, and then one over what follows it. -/
theorem resolveBehind {rest : List Char} (marked : Marked rest) (path : List Char) :
    resolve declared (String.ofList (path ++ rest)) =
      (resolve declared (String.ofList path)).bind fun front =>
        (fillBehind declared rest).map fun back => front ++ String.ofList back := by
  rw [resolveOpened, resolveOpened, String.toList_ofList, String.toList_ofList,
    openedBefore marked.breaks, fillAllAppend, scanBehind]
  cases fillAll declared (opened [] path) with
  | error e => rfl
  | ok front =>
    cases fillBehind declared rest <;> simp [Except.map, Except.bind]

variable {declared}

theorem behindSplit {rest first : List Char} {later : List (List Char)}
    (split : splitAt '/' rest = first :: later) :
    fillBehind declared rest =
      (later.mapM (fillSegment declared)).map fun filled => joinWith ['/'] (first :: filled) := by
  rw [fillBehind, split]

def BehindBecomes (declared : List (String × String)) (rest back : List Char) : Prop :=
  ∃ first later filled, splitAt '/' rest = first :: later ∧
    List.Forall₂ (Becomes declared) later filled ∧ back = joinWith ['/'] (first :: filled)

def BehindUndeclared (declared : List (String × String)) (rest : List Char) (name : String) :
    Prop :=
  ∃ first before segment after, splitAt '/' rest = first :: (before ++ segment :: after) ∧
    Undeclared declared segment name ∧
      ∀ earlier ∈ before, ∀ other, ¬ Undeclared declared earlier other

theorem behindDone {rest back : List Char} :
    fillBehind declared rest = .ok back ↔ BehindBecomes declared rest back := by
  obtain ⟨first, later, split⟩ := List.exists_cons_of_ne_nil (splitAtNonempty '/' rest)
  rw [BehindBecomes, becomesFilled, behindSplit split, split]
  simp only [← mapDone]
  cases filled : later.mapM (fillSegment declared) with
  | error e => simp [Except.map, filled]
  | ok parts => simp [Except.map, filled, eq_comm]

theorem behindStopped {rest : List Char} {missing : MissingParameter} :
    fillBehind declared rest = .error missing ↔ BehindUndeclared declared rest missing.name := by
  obtain ⟨first, later, split⟩ := List.exists_cons_of_ne_nil (splitAtNonempty '/' rest)
  have stops : fillBehind declared rest = .error missing ↔
      later.mapM (fillSegment declared) = .error missing := by
    rw [behindSplit split]
    cases later.mapM (fillSegment declared) <;> simp [Except.map]
  rw [stops, mapStopped, BehindUndeclared, split]
  simp only [segmentStopped, segmentDeclared, List.cons.injEq]
  constructor
  · rintro ⟨before, segment, after, same, undeclared, others⟩
    exact ⟨first, before, segment, after, ⟨rfl, same⟩, undeclared, others⟩
  · rintro ⟨-, before, segment, after, ⟨-, same⟩, undeclared, others⟩
    exact ⟨before, segment, after, same, undeclared, others⟩

theorem behindAlone {rest : List Char} :
    (∀ declared, fillBehind declared rest = .ok rest) ↔
      ∀ segment ∈ (splitAt '/' rest).tail, ∀ name more, ¬ Token segment name more := by
  obtain ⟨first, later, split⟩ := List.exists_cons_of_ne_nil (splitAtNonempty '/' rest)
  have whole := joinSplit '/' rest
  rw [split] at whole ⊢
  constructor
  · intro alone segment member name more token
    have stops : ∃ e, later.mapM (fillSegment []) = .error e := by
      refine mapFails.2 ⟨segment, member, ⟨String.ofList name⟩, segmentStopped.2 ⟨more, ?_, nofun⟩⟩
      rw [String.toList_ofList]
      exact token
    obtain ⟨e, stopped⟩ := stops
    have left := alone []
    rw [behindSplit split, stopped] at left
    contradiction
  · intro none declared
    have same : List.Forall₂ (Becomes declared) later later :=
      List.forall₂_same.2 fun segment member => .other (none segment member)
    exact behindDone.2 ⟨first, later, later, split, same, whole.symm⟩

theorem restTakesPart {rest : List Char} (marked : Marked rest) :
    (∀ declared path,
      (∀ result, resolve declared (String.ofList (path ++ rest)) = .ok result ↔
        ∃ front back, resolve declared (String.ofList path) = .ok front ∧
          BehindBecomes declared rest back ∧ result = front ++ String.ofList back) ∧
      ∀ missing, resolve declared (String.ofList (path ++ rest)) = .error missing ↔
        resolve declared (String.ofList path) = .error missing ∨
          (∃ front, resolve declared (String.ofList path) = .ok front) ∧
            BehindUndeclared declared rest missing.name) ∧
    ((∀ declared path, resolve declared (String.ofList (path ++ rest)) =
        (resolve declared (String.ofList path)).map (· ++ String.ofList rest)) ↔
      ∀ segment ∈ (splitAt '/' rest).tail, ∀ name more, ¬ Token segment name more) := by
  refine ⟨fun declared path => ⟨fun result => ?_, fun missing => ?_⟩, ?_⟩
  · rw [resolveBehind declared marked]
    simp only [← behindDone]
    cases resolve declared (String.ofList path) with
    | error e => simp [Except.bind]
    | ok front => cases fillBehind declared rest <;> simp [Except.bind, Except.map, eq_comm]
  · rw [resolveBehind declared marked, ← behindStopped]
    cases resolve declared (String.ofList path) with
    | error e => simp [Except.bind]
    | ok front => cases fillBehind declared rest <;> simp [Except.bind, Except.map]
  · rw [← behindAlone]
    constructor
    · intro stays declared
      have none : resolve declared (String.ofList []) = .ok "" := rfl
      have whole := stays declared []
      rw [resolveBehind declared marked, none] at whole
      cases filled : fillBehind declared rest with
      | error e =>
        rw [filled] at whole
        contradiction
      | ok back =>
        rw [filled] at whole
        have same : String.ofList back = String.ofList rest := by
          simpa using Except.ok.inj whole
        rw [String.ofList_injective same]
    · intro alone declared path
      rw [resolveBehind declared marked, alone]
      rfl

def returnRoutes : List Char := "?:id=:id&back=/:id/a#/:id.html".toList

theorem returnRoutesFilled :
    Marked returnRoutes ∧
      (∃ front back, resolve [("id", "7")] "/user/:id" = .ok front ∧
        BehindBecomes [("id", "7")] returnRoutes back ∧
          "/user/7?:id=:id&back=/7/a#/7.html" = front ++ String.ofList back) ∧
      BehindUndeclared [] returnRoutes "id" := by
  have marked : Marked returnRoutes := ⟨'?', rfl, .inl rfl⟩
  obtain ⟨each, -⟩ := restTakesPart marked
  have done : resolve [("id", "7")] (String.ofList ("/user/:id".toList ++ returnRoutes)) =
      .ok "/user/7?:id=:id&back=/7/a#/7.html" := rfl
  have stopped : resolve [] (String.ofList ("/user".toList ++ returnRoutes)) = .error ⟨"id"⟩ := rfl
  have path : resolve [] (String.ofList "/user".toList) = .ok "/user" := rfl
  have missing := ((each [] "/user".toList).2 ⟨"id"⟩).1 stopped
  rw [path] at missing
  exact ⟨marked, ((each [("id", "7")] "/user/:id".toList).1 _).1 done,
    (missing.resolve_left (by simp)).2⟩

theorem returnRouteRequired :
    '?' ∉ "/login".toList ∧ '#' ∉ "/login".toList ∧ Marked "?back=/:id".toList ∧
      resolve [] "/login" = .ok "/login" ∧
      resolve [] (String.ofList ("/login".toList ++ "?back=/:id".toList)) = .error ⟨"id"⟩ ∧
      resolve [("id", "7")] (String.ofList ("/login".toList ++ "?back=/:id".toList)) =
        .ok "/login?back=/7" := by
  refine ⟨by decide, by decide, ⟨'?', rfl, .inl rfl⟩, rfl, rfl, rfl⟩

end

end RequestSuite.Template.PathParameter
