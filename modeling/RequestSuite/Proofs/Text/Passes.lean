import RequestSuite.Proofs.Text.Words

/-! One pass of a finder over a text, step by step. Every hit leaves a shorter text to look at, so
what holds of a whole pass is shown for a character that no hit begins with and for a hit. -/
namespace RequestSuite.Text

variable {α : Type} {find : Finder α}

def Forward (find : Finder α) : Prop :=
  ∀ {c rest value after}, find (c :: rest) = some (value, after) → after <:+ rest

@[elab_as_elim]
theorem passInduction {motive : List Char → Prop} (forward : Forward find) (nil : motive [])
    (miss : ∀ c rest, find (c :: rest) = none → motive rest → motive (c :: rest))
    (hit : ∀ c rest value after, find (c :: rest) = some (value, after) → motive after →
      motive (c :: rest)) (text : List Char) : motive text := by
  induction size : text.length using Nat.strongRecOn generalizing text with
  | ind n ih =>
    cases text with
    | nil => exact nil
    | cons c rest =>
      rw [List.length_cons] at size
      cases found : find (c :: rest) with
      | none => exact miss c rest found (ih rest.length (by omega) rest rfl)
      | some hit' =>
        obtain ⟨value, after⟩ := hit'
        have shorter := (forward found).length_le
        exact hit c rest value after found (ih after.length (by omega) after rfl)

theorem passMiss {c : Char} {rest : List Char} (missed : find (c :: rest) = none)
    (fill : α → List Char) :
    replaceHits find fill (c :: rest) = c :: replaceHits find fill rest := by
  rw [replaceHits, scanMiss missed]
  rfl

theorem passHit {c : Char} {rest after : List Char} {value : α}
    (found : find (c :: rest) = some (value, after)) (suffix : after <:+ rest)
    (fill : α → List Char) :
    replaceHits find fill (c :: rest) = fill value ++ replaceHits find fill after := by
  rw [replaceHits, scanHit found suffix]
  rfl

theorem hitsMiss {c : Char} {rest : List Char} (missed : find (c :: rest) = none) :
    hits find (c :: rest) = hits find rest := by
  rw [hits, scanMiss missed]
  rfl

theorem hitsHit {c : Char} {rest after : List Char} {value : α}
    (found : find (c :: rest) = some (value, after)) (suffix : after <:+ rest) :
    hits find (c :: rest) = value :: hits find after := by
  rw [hits, scanHit found suffix]
  rfl

theorem passOver {word : List Char} (needs : ∀ text, word.isPrefixOf? text = none → find text = none)
    {before after : List Char} (absent : contains word before = false)
    (apart : Apart word before after) (fill : α → List Char) :
    replaceHits find fill (before ++ after) = before ++ replaceHits find fill after := by
  rw [replaceHits, scanOver needs absent apart, List.flatMap_append, List.flatMap_map]
  exact congrArg (· ++ replaceHits find fill after) (List.flatMap_singleton' before)

theorem passHead {text : List Char} (missed : find text = none) (fill : α → List Char) :
    (replaceHits find fill text).head? = text.head? := by
  cases text with
  | nil => rfl
  | cons c rest => rw [passMiss missed]; rfl

end RequestSuite.Text
