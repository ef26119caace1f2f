import RequestSuite.Proofs.Template.Refilling

/-! Holes that open the values of a query. A match takes a separator, a key and a hole together, so
the parameters of a query are filled one by one, whatever stands in their keys and values; and a
match whose name has no value is written back as it was. -/
namespace RequestSuite.Template.QueryHole
open Text

def mark : List Char := '=' :: opening

theorem markFilled : mark ≠ [] := List.cons_ne_nil _ _

structure Opens (text : List Char) (e : Entry) (after : List Char) : Prop where
  separator : e.separator = '?' ∨ e.separator = '&'
  named : e.key ≠ []
  keyed : ∀ c ∈ e.key, isKeyPart c = true
  held : ∃ value, text = e.separator :: (e.key ++ (mark ++ value)) ∧
    beforeClose value = some (e.inside, after)

theorem keyCut {key : List Char} (keyed : ∀ c ∈ key, isKeyPart c = true) (rest : List Char) :
    (key ++ '=' :: rest).takeWhile isKeyPart = key ∧
      (key ++ '=' :: rest).dropWhile isKeyPart = '=' :: rest := by
  rw [List.takeWhile_append_of_pos keyed, List.dropWhile_append_of_pos keyed]
  exact ⟨List.append_nil key, rfl⟩

theorem entryOpens {text after : List Char} {e : Entry} :
    entry text = some (e, after) ↔ Opens text e after := by
  constructor
  · intro found
    unfold entry at found
    split at found
    · rename_i c rest
      split at found
      · rename_i separates
        split at found
        · rename_i value more
          dsimp only at found
          split at found
          · contradiction
          · rename_i named
            obtain ⟨⟨inside, after'⟩, closed, same⟩ := Option.map_eq_some_iff.1 found
            obtain ⟨rfl, rfl⟩ := Prod.mk.inj same
            refine ⟨by simpa using separates, by simpa using named,
              fun d => List.mem_takeWhile_imp, value, ?_, closed⟩
            have whole : rest.takeWhile isKeyPart ++ rest.dropWhile isKeyPart = rest :=
              List.takeWhile_append_dropWhile
            rw [more] at whole
            exact congrArg (c :: ·) whole.symm
        · contradiction
      · contradiction
    · contradiction
  · rintro ⟨separates, named, keyed, value, rfl, closed⟩
    obtain ⟨taken, left⟩ := keyCut keyed (opening ++ value)
    have filled : e.key.isEmpty = false := by simpa using named
    have separates' : (e.separator = '?' || e.separator = '&') = true := by simpa using separates
    rw [entry, if_pos separates', mark, List.cons_append]
    dsimp only
    rw [taken, left]
    simp [opening, filled, closed]

theorem Opens.written {text after : List Char} {e : Entry} (opens : Opens text e after) :
    text = e.separator :: (e.key ++ '=' :: reopen e.inside) ++ after := by
  obtain ⟨value, rfl, closed⟩ := opens.held
  rw [(beforeCloseFound closed).1]
  simp [mark, opening, reopen]

theorem Opens.suffix {c : Char} {rest after : List Char} {e : Entry}
    (opens : Opens (c :: rest) e after) : after <:+ rest :=
  ⟨_, (List.cons.inj opens.written).2.symm⟩

theorem entryForward : Forward entry := fun found => (entryOpens.1 found).suffix

theorem hitOpens {text : List Char} {e : Entry} (member : e ∈ hits entry text) :
    ∃ part after, part <:+ text ∧ Opens part e after := by
  induction text using passInduction entryForward with
  | nil => contradiction
  | miss c rest missed ih =>
    rw [hitsMiss missed] at member
    obtain ⟨part, after, inside, opens⟩ := ih member
    exact ⟨part, after, inside.trans (List.suffix_cons c rest), opens⟩
  | hit c rest other left found ih =>
    rw [hitsHit found (entryForward found)] at member
    rcases List.mem_cons.1 member with rfl | later
    · exact ⟨c :: rest, left, List.suffix_rfl, entryOpens.1 found⟩
    · obtain ⟨part, after, inside, opens⟩ := ih later
      have within := (inside.trans (entryForward found)).trans (List.suffix_cons c rest)
      exact ⟨part, after, within, opens⟩

section
variable (value : String → Option String)

theorem entryStays {e : Entry} (unknown : value (String.ofList (trim e.inside)) = none) :
    fillEntry value e = e.separator :: (e.key ++ '=' :: reopen e.inside) := by
  rw [fillEntry, fill, unknown]
  rfl

theorem unknownStays {text : List Char}
    (unknown : ∀ e ∈ hits entry text, value (String.ofList (trim e.inside)) = none) :
    replaceHits entry (fillEntry value) text = text := by
  induction text using passInduction entryForward with
  | nil => rfl
  | miss c rest missed ih =>
    rw [hitsMiss missed] at unknown
    rw [passMiss missed, ih unknown]
  | hit c rest e after found ih =>
    rw [hitsHit found (entryForward found)] at unknown
    obtain ⟨here, later⟩ := List.forall_mem_cons.1 unknown
    rw [passHit found (entryForward found), ih later, entryStays value here]
    exact (entryOpens.1 found).written.symm

end

section
variable {rest : List Char} (ends : ∀ c, rest.head? = some c → c = '&')
include ends

theorem markApart (before : List Char) : Apart mark before rest := by
  cases rest with
  | nil => exact apartNothing mark before
  | cons c rest =>
    rw [ends c rfl]
    exact apartAt (by decide) before rest

/- No entry begins in a text without the mark that ends before the next parameter: its key would
have to go on over the ampersand. -/
theorem entryMissed {c : Char} {text : List Char} (unmarked : contains mark (c :: text) = false) :
    entry (c :: text ++ rest) = none := by
  refine Option.eq_none_iff_forall_ne_some.2 fun found reached => ?_
  obtain ⟨-, -, keyed, value, whole, -⟩ := entryOpens.1 reached
  obtain ⟨more, key, split⟩ | ⟨back, front, split⟩ :=
    List.append_eq_append_iff.1 (List.cons.inj whole).2
  · cases more with
    | nil => exact absurd (ends '=' (by rw [split]; rfl)) (by decide)
    | cons d more =>
      have part := keyed d (by rw [key]; exact List.mem_append_right text List.mem_cons_self)
      rw [ends d (by rw [split]; rfl)] at part
      contradiction
  · have absent : ∀ left, back ≠ mark ++ left := by
      intro left inside
      have stands : c :: text = (c :: found.1.key) ++ (mark ++ left) := by rw [front, inside]; rfl
      rw [stands, containsPart markFilled] at unmarked
      contradiction
    rcases List.append_eq_append_iff.1 split with ⟨left, inside, -⟩ | ⟨left, begun, more⟩
    · exact absent left inside
    · have suffix : back <:+ c :: text := ⟨c :: found.1.key, by rw [front]; rfl⟩
      have some : back ≠ [] := by
        rintro rfl
        obtain rfl : mark = left := begun
        exact absurd (ends '=' (by rw [more]; rfl)) (by decide)
      have others : left ≠ [] := by
        rintro rfl
        rw [List.append_nil] at begun
        exact absent [] (by rw [begun, List.append_nil])
      exact markApart ends (c :: text) back left suffix ⟨value, more.symm⟩ some others begun

theorem passUnmarked {text : List Char} (unmarked : contains mark text = false)
    (fill : Entry → List Char) :
    replaceHits entry fill (text ++ rest) = text ++ replaceHits entry fill rest := by
  induction text with
  | nil => rfl
  | cons c text ih =>
    have missed := entryMissed ends unmarked
    rw [List.cons_append] at missed ⊢
    rw [passMiss missed, ih (absentCons unmarked).2]
    rfl

end

structure Parameter where
  key : List Char
  hole : Option (List Char)
  tail : List Char
  named : key ≠ []
  keyed : ∀ c ∈ key, isKeyPart c = true
  closed : ∀ name ∈ hole, ∀ c ∈ name, c ≠ '}' ∧ c ≠ '\n'
  unopened : contains opening tail = false

def Parameter.text (fill : List Char → List Char) (parameter : Parameter) : List Char :=
  parameter.key ++ '=' :: (parameter.hole.elim [] fill ++ parameter.tail)

def query (fill : List Char → List Char) (base : List Char) (parameters : List Parameter) :
    List Char :=
  base ++ '?' :: joinWith ['&'] (parameters.map (Parameter.text fill))

theorem Parameter.unmarked (parameter : Parameter) : contains mark parameter.tail = false := by
  have longer : contains (['='] ++ opening ++ []) parameter.tail = false :=
    containsLonger (List.cons_ne_nil _ _) parameter.unopened
  rwa [List.append_nil] at longer

theorem Parameter.bareUnmarked (parameter : Parameter) {separator : Char}
    (separates : separator = '?' ∨ separator = '&') :
    contains mark (separator :: (parameter.key ++ '=' :: parameter.tail)) = false := by
  have unequal : '=' ∉ separator :: parameter.key := by
    refine List.not_mem_cons_of_ne_of_not_mem ?_ fun inside => ?_
    · rintro rfl
      exact separates.elim (by decide) (by decide)
    · exact absurd (parameter.keyed '=' inside) (by decide)
  have front : contains mark (separator :: parameter.key) = false :=
    Bool.eq_false_iff.2 fun found => unequal (containsSubset found List.mem_cons_self)
  have start : mark.isPrefixOf? ('=' :: parameter.tail) = none := by
    rw [mark, List.isPrefixOf?, absentStart parameter.unopened]
    rfl
  rw [← List.cons_append, containsApart markFilled (apartAt (by decide) _ _), front,
    containsCons, start, parameter.unmarked]
  rfl

section
variable (value : String → Option String)

theorem passParameter (parameter : Parameter) {separator : Char}
    (separates : separator = '?' ∨ separator = '&') {rest : List Char}
    (ends : ∀ c, rest.head? = some c → c = '&') :
    replaceHits entry (fillEntry value) (separator :: (parameter.text reopen ++ rest)) =
      separator :: (parameter.text (fill value) ++
        replaceHits entry (fillEntry value) rest) := by
  cases held : parameter.hole with
  | none =>
    have bare := passUnmarked ends (parameter.bareUnmarked separates) (fillEntry value)
    simpa [Parameter.text, held] using bare
  | some name =>
    have closed := parameter.closed name held
    have opens : Opens (separator :: (parameter.text reopen ++ rest))
        ⟨separator, parameter.key, name⟩ (parameter.tail ++ rest) := by
      refine ⟨separates, parameter.named, parameter.keyed, _, ?_,
        beforeCloseName closed (parameter.tail ++ rest)⟩
      simp [Parameter.text, held, mark, opening, reopen]
    have found := entryOpens.2 opens
    rw [passHit found (entryForward found), passUnmarked ends parameter.unmarked]
    simp [Parameter.text, held, fillEntry]

def laterText (fill : List Char → List Char) (parameters : List Parameter) : List Char :=
  (parameters.map (Parameter.text fill)).flatMap (['&'] ++ ·)

theorem laterEnds (fill : List Char → List Char) (parameters : List Parameter) (c : Char)
    (first : (laterText fill parameters).head? = some c) : c = '&' := by
  cases parameters with
  | nil => contradiction
  | cons parameter parameters => exact (Option.some.inj first).symm

theorem passLater (parameters : List Parameter) :
    replaceHits entry (fillEntry value) (laterText reopen parameters) =
      laterText (fill value) parameters := by
  induction parameters with
  | nil => rfl
  | cons parameter parameters ih =>
    have next := passParameter value parameter (.inr rfl) (laterEnds reopen parameters)
    rw [ih] at next
    simpa [laterText] using next

theorem entryBare {c : Char} (bare : c ≠ '?' ∧ c ≠ '&') (rest : List Char) :
    entry (c :: rest) = none := by
  simp [entry, bare.1, bare.2]

theorem passQuery {base : List Char} (bare : ∀ c ∈ base, c ≠ '?' ∧ c ≠ '&')
    (parameters : List Parameter) :
    replaceHits entry (fillEntry value) (query reopen base parameters) =
      query (fill value) base parameters := by
  induction base with
  | nil =>
    cases parameters with
    | nil => rfl
    | cons parameter parameters =>
      have first := passParameter value parameter (.inl rfl) (laterEnds reopen parameters)
      rw [passLater] at first
      simpa [query, joinFirst, laterText] using first
  | cons c base ih =>
    obtain ⟨here, later⟩ := List.forall_mem_cons.1 bare
    rw [query, List.cons_append, passMiss (entryBare here _)]
    exact congrArg (c :: ·) (ih later)

end

end RequestSuite.Template.QueryHole

namespace RequestSuite.Variable.Snapshot
open Template Template.QueryHole

def shown (snapshot : Snapshot) (name : List Char) : List Char :=
  match snapshot.get? (String.ofList (Text.trim name)) with
  | some value => value.display.toList
  | none => reopen name

def text? (snapshot : Snapshot) (name : String) : Option String :=
  (snapshot.get? name).map Value.display

theorem fillSnapshot (snapshot : Snapshot) : fill snapshot.text? = snapshot.shown := by
  funext name
  unfold fill shown text?
  cases snapshot.get? (String.ofList (Text.trim name)) <;> rfl

theorem fillQueryPass (snapshot : Snapshot) (url : String) :
    snapshot.fillQuery url = QueryHole.resolve snapshot.text? url := by
  rw [fillQuery]
  split
  · rename_i none
    have unknown : ∀ name, snapshot.text? name = Option.none := by
      intro name
      rw [text?, NameMap.get?, List.isEmpty_iff.1 none]
      rfl
    rw [QueryHole.resolve, unknownStays _ fun e _ => unknown _, String.ofList_toList]
  · rfl

theorem queryFilled (snapshot : Snapshot) {base : List Char} (bare : ∀ c ∈ base, c ≠ '?' ∧ c ≠ '&')
    (parameters : List Parameter) :
    snapshot.fillQuery (String.ofList (query reopen base parameters)) =
        String.ofList (query snapshot.shown base parameters) ∧
      ∀ url, snapshot.fillQuery url = QueryHole.resolve snapshot.text? url := by
  refine ⟨?_, snapshot.fillQueryPass⟩
  rw [fillQueryPass, QueryHole.resolve, String.toList_ofList, passQuery _ bare, fillSnapshot]

def injecting : Snapshot :=
  .ofList [("a", .text "1&c=\x7b\x7bb\x7d\x7d?"), ("b", .text "&&"), ("", .text "none")]

def crowded : List Parameter :=
  [⟨"k?\x7b\x7b".toList, some " a ".toList, "?b=\x7b".toList, by decide, by simp [isKeyPart],
      by simp, by decide⟩,
    ⟨"c".toList, none, "=\x7b \x7bb\x7d\x7d".toList, by decide, by simp [isKeyPart], by simp,
      by decide⟩,
    ⟨"?".toList, some [], "\x7d?".toList, by decide, by simp [isKeyPart], by simp, by decide⟩,
    ⟨"e".toList, some "d".toList, "#".toList, by decide, by simp [isKeyPart], by simp, by decide⟩,
    ⟨"f".toList, some "b".toList, "#b=".toList, by decide, by simp [isKeyPart], by simp,
      by decide⟩]

theorem crowdedFilled :
    (∀ c ∈ "h/#".toList, c ≠ '?' ∧ c ≠ '&') ∧
      injecting.fillQuery (String.ofList (query reopen "h/#".toList crowded)) =
        "h/#?k?\x7b\x7b=1&c=\x7b\x7bb\x7d\x7d??b=\x7b&c==\x7b \x7bb\x7d\x7d&?=none\x7d?&" ++
          "e=\x7b\x7bd\x7d\x7d#&f=&&#b=" := by
  have bare : ∀ c ∈ "h/#".toList, c ≠ '?' ∧ c ≠ '&' := by simp
  refine ⟨bare, (queryFilled injecting bare crowded).1.trans ?_⟩
  decide

end RequestSuite.Variable.Snapshot
