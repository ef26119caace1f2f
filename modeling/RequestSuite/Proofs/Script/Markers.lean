import RequestSuite.Proofs.Text.Words
import RequestSuite.Script.TestMarker

/-! Lines that open a block with a name in double quotes, read up to the end of that name, and
lines that open none. -/
namespace RequestSuite.Script.TestMarker
open Text

variable {name : List Char}

theorem quotedName (named : name ≠ []) (unquoted : '"' ∉ name) (rest : List Char) :
    quoted ('"' :: (name ++ '"' :: rest)) = some (name, rest) := by
  have inside : ∀ c ∈ name, decide (c ≠ '"') = true := by
    intro c member
    refine decide_eq_true ?_
    rintro rfl
    exact unquoted member
  have taken : (name ++ '"' :: rest).takeWhile (fun c => decide (c ≠ '"')) = name := by
    rw [List.takeWhile_append_of_pos inside, List.takeWhile_cons_of_neg (by decide),
      List.append_nil]
  have dropped : (name ++ '"' :: rest).dropWhile (fun c => decide (c ≠ '"')) = '"' :: rest := by
    rw [List.dropWhile_append_of_pos inside, List.dropWhile_cons_of_neg (by decide)]
  have filled : name.isEmpty = false := by simpa using named
  rw [quoted, if_pos (by decide)]
  simp only [taken, dropped, filled, Bool.false_eq_true, if_false]

theorem namedMarker (named : name ≠ []) (unquoted : '"' ∉ name) (callback : List Char) :
    ofLine? (call ++ '"' :: (name ++ '"' :: callback)) =
      some (ofCallback (some (String.ofList name)) callback) := by
  have filled : call ≠ [] := by decide
  have unblank : ∀ rest, skipBlanks ('"' :: rest) = '"' :: rest := fun _ => rfl
  rw [ofLine?, splitOnceStart filled, Option.map_some]
  simp only [unblank, quotedName named unquoted]

theorem unmarked {line : List Char} (absent : contains call line = false) :
    ofLine? line = none := by
  rw [ofLine?, absentCut absent, Option.map_none]

/- An arrow behind a brace belongs to the block. -/
theorem expressionNone {front : List Char} (absent : contains ['=', '>'] front = false)
    (rest : List Char) : expressionBody (front ++ '{' :: rest) = none := by
  have cut := splitOnceApart absent (apartAt (c := '{') (by decide) front rest)
  have brace : splitOnce ['=', '>'] ('{' :: rest) =
      (splitOnce ['=', '>'] rest).map (Prod.map ('{' :: ·) id) := rfl
  rw [expressionBody, cut, brace]
  cases splitOnce ['=', '>'] rest with
  | none => rfl
  | some parts => simp

theorem firstBrace {front : List Char} (absent : '{' ∉ front) (name : Option String)
    (rest : List Char) : braceBlock name (front ++ '{' :: rest) = afterBrace name rest := by
  have bare : contains ['{'] front = false :=
    Bool.eq_false_iff.2 fun found => absent (containsSubset found List.mem_cons_self)
  have cut := splitOnceApart bare (apartAt (c := '{') (by decide) front rest)
  have here : splitOnce ['{'] ('{' :: rest) = some ([], rest) := splitOnceStart (by decide) rest
  rw [here] at cut
  rw [braceBlock, cut]
  rfl

end RequestSuite.Script.TestMarker
