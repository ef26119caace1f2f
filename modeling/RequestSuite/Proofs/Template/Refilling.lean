import RequestSuite.Proofs.Template.Holes
import RequestSuite.Proofs.Text.Passes
import RequestSuite.Proofs.Variable.Layers

/-! A text after its holes have been filled. Where no value has an opening brace, a second pass meets
what the first one left as it was, and nothing else: the holes without a value, at their places. A
hole that begins too early hides one that has a value; such a hole is left behind, at the end of
the one that hides it. -/
namespace RequestSuite.Template
open Text

theorem beforeCloseStep {c : Char} {rest : List Char} (apart : c = '}' → rest.head? ≠ some '}') :
    beforeClose (c :: rest) =
      if c = '\n' then none
      else (beforeClose rest).map fun (inside, after) => (c :: inside, after) := by
  rw [beforeClose]
  rintro more rfl rfl
  exact apart rfl rfl

theorem unclosedStep {c : Char} {rest : List Char} :
    beforeClose (c :: rest) = none ↔
      (c = '}' → rest.head? ≠ some '}') ∧ (c = '\n' ∨ beforeClose rest = none) := by
  by_cases apart : c = '}' → rest.head? ≠ some '}'
  · rw [and_iff_right apart, beforeCloseStep apart]
    by_cases feed : c = '\n' <;> simp [feed]
  · obtain ⟨rfl, next⟩ := Classical.not_imp.1 apart
    obtain ⟨more, rfl⟩ := List.head?_eq_some_iff.1 (not_not.1 next)
    simp [beforeClose]

theorem missedStep {c : Char} {rest : List Char} :
    hole ('{' :: '{' :: c :: rest) = none ↔ c = '\n' ∨ beforeClose rest = none := by
  rw [hole]
  by_cases feed : c = '\n' <;> simp [feed]

theorem missedOf {text : List Char}
    (missed : ∀ c rest, text = '{' :: '{' :: c :: rest → c = '\n' ∨ beforeClose rest = none) :
    hole text = none := by
  unfold hole
  split
  · exact missedStep.2 (missed _ _ rfl)
  · rfl

theorem beforeCloseFound {text inside after : List Char}
    (found : beforeClose text = some (inside, after)) :
    text = inside ++ '}' :: '}' :: after ∧
      ∀ other, beforeClose (inside ++ '}' :: '}' :: other) = some (inside, other) := by
  fun_induction beforeClose text generalizing inside with
  | case1 => contradiction
  | case2 rest =>
    obtain ⟨rfl, rfl⟩ := Prod.mk.inj (Option.some.inj found)
    exact ⟨rfl, fun _ => rfl⟩
  | case3 => contradiction
  | case4 c rest apart unbroken ih =>
    obtain ⟨⟨front, back⟩, later, same⟩ := Option.map_eq_some_iff.1 found
    obtain ⟨rfl, rfl⟩ := Prod.mk.inj same
    obtain ⟨split, again⟩ := ih later
    refine ⟨congrArg (c :: ·) split, fun other => ?_⟩
    have apart' : c = '}' → (front ++ '}' :: '}' :: other).head? ≠ some '}' := by
      rintro rfl next
      cases front with
      | nil => exact apart _ rfl split
      | cons x front =>
        obtain rfl : x = '}' := Option.some.inj next
        exact apart _ rfl split
    rw [List.cons_append, beforeCloseStep apart', if_neg unbroken, again]
    rfl

theorem Plain.closed {name : List Char} (plain : Plain name) :
    ∀ c ∈ name, c ≠ '}' ∧ c ≠ '\n' := fun c member => (plain.2 c member).2

theorem unopenedOf {text : List Char} (unbraced : '{' ∉ text) : contains opening text = false :=
  Bool.eq_false_iff.2 fun found => unbraced (containsSubset found List.mem_cons_self)

theorem apartUnbraced {text : List Char} (unbraced : '{' ∉ text) (after : List Char) :
    Apart opening text after :=
  apartOpening (fun last => unbraced (List.mem_of_getLast? last)) after

theorem holeShape {text inside after : List Char} (found : hole text = some (inside, after)) :
    ∃ c rest front, text = '{' :: '{' :: c :: rest ∧ inside = c :: front ∧ c ≠ '\n' ∧
      beforeClose rest = some (front, after) := by
  unfold hole at found
  split at found
  · rename_i c rest
    split at found
    · contradiction
    · rename_i unbroken
      obtain ⟨⟨front, back⟩, cut, same⟩ := Option.map_eq_some_iff.1 found
      obtain ⟨rfl, rfl⟩ := Prod.mk.inj same
      exact ⟨c, rest, front, rfl, rfl, unbroken, cut⟩
  · contradiction

theorem holeFound {text inside after : List Char} (found : hole text = some (inside, after)) :
    text = reopen inside ++ after ∧
      ∀ other, hole (reopen inside ++ other) = some (inside, other) := by
  obtain ⟨c, rest, front, rfl, rfl, unbroken, cut⟩ := holeShape found
  obtain ⟨split, again⟩ := beforeCloseFound cut
  refine ⟨?_, fun other => ?_⟩
  · rw [reopenText, split]
    rfl
  · rw [reopenText, List.cons_append, hole, if_neg unbroken, again]
    rfl

theorem reopenSuffix (inside after : List Char) :
    after <:+ '{' :: (inside ++ '}' :: '}' :: after) :=
  ⟨'{' :: inside ++ ['}', '}'], by simp⟩

theorem holeForward : Forward hole := by
  intro c rest inside after found
  have split := (holeFound found).1
  rw [reopenText] at split
  rw [(List.cons.inj split).2]
  exact reopenSuffix inside after

theorem unclosedMissed {text : List Char} (unclosed : beforeClose text = none) :
    hole text = none := by
  refine missedOf ?_
  rintro c rest rfl
  have second := (unclosedStep.1 unclosed).2.resolve_left (by decide)
  have third := (unclosedStep.1 second).2.resolve_left (by decide)
  exact (unclosedStep.1 third).2

theorem behindMissed {text : List Char} (missed : hole ('{' :: text) = none) : hole text = none := by
  refine missedOf ?_
  rintro c rest rfl
  have unclosed := (missedStep.1 missed).resolve_left (by decide)
  exact (unclosedStep.1 unclosed).2

section
variable (fill : List Char → List Char)

theorem unclosedFilled {text : List Char} (unclosed : beforeClose text = none) :
    beforeClose (replaceHits hole fill text) = none := by
  induction text with
  | nil => rfl
  | cons c rest ih =>
    obtain ⟨apart, open'⟩ := unclosedStep.1 unclosed
    rw [passMiss (unclosedMissed unclosed), unclosedStep]
    by_cases feed : c = '\n'
    · exact ⟨by simp [feed], .inl feed⟩
    · have later := open'.resolve_left feed
      rw [passHead (unclosedMissed later)]
      exact ⟨apart, .inr (ih later)⟩

theorem behindFilled {rest : List Char} (missed : hole ('{' :: rest) = none) :
    hole ('{' :: replaceHits hole fill rest) = none := by
  refine missedOf fun c more same => ?_
  have same' := (List.cons.inj same).2
  have here := behindMissed missed
  cases rest with
  | nil => contradiction
  | cons d tail =>
    rw [passMiss here] at same'
    obtain ⟨rfl, same''⟩ := List.cons.inj same'
    have next := behindMissed here
    cases tail with
    | nil => contradiction
    | cons e tail =>
      rw [passMiss next] at same''
      obtain ⟨rfl, rfl⟩ := List.cons.inj same''
      exact (missedStep.1 missed).imp_right (unclosedFilled fill)

end

section
variable {value : String → Option String}

def settle (value : String → Option String) : Piece (List Char) → List (Piece (List Char))
  | .plain c => [.plain c]
  | .hit inside =>
    match value (String.ofList (trim inside)) with
    | some text => text.toList.map .plain
    | none => [.hit inside]

theorem settleRender (value : String → Option String) (piece : Piece (List Char)) :
    (settle value piece).flatMap (Piece.render (fill value)) = piece.render (fill value) := by
  cases piece with
  | plain c => rfl
  | hit inside =>
    rw [settle, Piece.render, fill]
    cases known : value (String.ofList (trim inside)) with
    | some text => exact renderPlain (fill value) text.toList
    | none => simp [Piece.render, fill, known]

/- The values that were filled in are passed over, and the holes without a value are met again. -/
theorem scanFilled (unbraced : ∀ name text, value name = some text → '{' ∉ text.toList)
    (text : List Char) :
    scan hole (replaceHits hole (fill value) text) =
      (scan hole text).flatMap (settle value) := by
  induction text using passInduction holeForward with
  | nil => rfl
  | miss c rest missed ih =>
    have missed' : hole (c :: replaceHits hole (fill value) rest) = none := by
      by_cases brace : c = '{'
      · rw [brace] at missed ⊢
        exact behindFilled (fill value) missed
      · refine missedOf fun d more same => absurd ?_ brace
        exact (List.cons.inj same).1
    rw [passMiss missed, scanMiss missed', scanMiss missed, ih]
    rfl
  | hit c rest inside after found ih =>
    rw [passHit found (holeForward found), scanHit found (holeForward found), List.flatMap_cons, ← ih,
      settle, fill]
    cases known : value (String.ofList (trim inside)) with
    | some text =>
      have absent := unbraced _ _ known
      exact scanOver holeOpens (unopenedOf absent) (apartUnbraced absent _)
    | none =>
      have again := (holeFound found).2 (replaceHits hole (fill value) after)
      rw [reopenText] at again
      rw [reopenText, scanHit again (reopenSuffix inside _)]
      rfl

theorem fillAgain (unbraced : ∀ name text, value name = some text → '{' ∉ text.toList)
    (text : List Char) :
    replaceHits hole (fill value) (replaceHits hole (fill value) text) =
      replaceHits hole (fill value) text := by
  rw [replaceHits, scanFilled unbraced, List.flatMap_assoc]
  simp only [settleRender]
  rfl

theorem hitsFilled (unbraced : ∀ name text, value name = some text → '{' ∉ text.toList)
    (text : List Char) :
    hits hole (replaceHits hole (fill value) text) =
      (hits hole text).filter fun inside => (value (String.ofList (trim inside))).isNone := by
  rw [hits, scanFilled unbraced, hits]
  induction scan hole text with
  | nil => rfl
  | cons piece pieces ih =>
    rw [List.flatMap_cons, List.filterMap_append, ih]
    cases piece with
    | plain c => rfl
    | hit inside =>
      rw [settle]
      cases known : value (String.ofList (trim inside)) with
      | some text => simp [Piece.hit?, known, List.filterMap_map, Function.comp_def]
      | none => simp [Piece.hit?, known]

end

end RequestSuite.Template

namespace RequestSuite.Variable.Store
open Template

def Unbraced (store : Store) : Prop :=
  ∀ name value, store.get? name = some value → '{' ∉ value.display.toList

theorem unbracedMerged (store : Store) :
    store.Unbraced ↔ ∀ entry ∈ store.merged.entries, '{' ∉ entry.2.display.toList := by
  constructor
  · intro unbraced entry member
    refine unbraced entry.1 entry.2 ?_
    rw [← mergedGet, ← NameMap.memIffGet]
    exact member
  · intro each name value found
    rw [← mergedGet] at found
    exact each (name, value) ((NameMap.memIffGet _ (name, value)).2 found)

instance (store : Store) : Decidable store.Unbraced :=
  decidable_of_iff _ store.unbracedMerged.symm

theorem Unbraced.text {store : Store} (unbraced : store.Unbraced) (name text : String)
    (found : store.text? name = some text) : '{' ∉ text.toList := by
  obtain ⟨value, known, rfl⟩ := Option.map_eq_some_iff.1 found
  exact unbraced name value known

theorem substituteTwice (store : Store) (unbraced : store.Unbraced) (text : String) :
    store.substitute (store.substitute text) = store.substitute text ∧
      Text.hits hole (store.substitute text).toList =
        (Text.hits hole text.toList).filter fun inside =>
          (store.get? (String.ofList (Text.trim inside))).isNone := by
  simp only [substitute, Template.substitute, String.toList_ofList]
  refine ⟨congrArg String.ofList (fillAgain unbraced.text text.toList), ?_⟩
  rw [hitsFilled unbraced.text]
  simp only [text?, Option.isNone_map]

def closings : Store := (empty.declare "a" (.text "\x7d\x7d $1")).keep "" (.text "")

def uneven : String :=
  "\x7b\x7b\n\x7b\x7b \x7d\x7d\x7b \x7b\x7b\x7ba\x7d\x7d \x7b\x7ba\x7d\x7d\n\x7b\x7b"

theorem unevenTwice :
    closings.Unbraced ∧
      closings.substitute uneven =
        "\x7b\x7b\n\x7b \x7b\x7b\x7ba\x7d\x7d \x7d\x7d $1\n\x7b\x7b" ∧
      closings.substitute (closings.substitute uneven) = closings.substitute uneven ∧
      Text.hits hole (closings.substitute uneven).toList = ["\x7ba".toList] := by
  have unbraced : closings.Unbraced := by decide
  obtain ⟨again, met⟩ := substituteTwice closings unbraced uneven
  exact ⟨unbraced, by decide, again, met.trans (by decide)⟩

end RequestSuite.Variable.Store
