import RequestSuite.Json.Printer

/-! Strings as JSON writes them, read back. A character is written as itself or as one escape, and
what follows is read on behind it, so every text comes back whatever its characters are. -/
namespace RequestSuite.Json
open Text

def escaped (text : String) : List Char := text.toList.flatMap escape

inductive Escaped (c : Char) : List Char → Prop where
  | simple (mark : Char) (known : mark ∈ simpleEscapes) (same : unescapeSimple mark = c) :
    Escaped c ['\\', mark]
  | unit (control : c.toNat < 0x20) : Escaped c ('\\' :: 'u' :: Quoted.hexUnit c.toNat)
  | plain (printed : 0x20 ≤ c.toNat) (unquoted : c ≠ '"') (unmarked : c ≠ '\\') : Escaped c [c]

theorem escapeForms (c : Char) : Escaped c (escape c) := by
  unfold escape
  split
  · rename_i same
    exact .simple '"' (by decide) same.symm
  rename_i unquoted
  split
  · rename_i same
    exact .simple '\\' (by decide) same.symm
  rename_i unmarked
  split
  · rename_i same
    exact .simple 'n' (by decide) same.symm
  split
  · rename_i same
    exact .simple 'r' (by decide) same.symm
  split
  · rename_i same
    exact .simple 't' (by decide) same.symm
  split
  · rename_i same
    exact .simple 'b' (by decide) same.symm
  split
  · rename_i same
    exact .simple 'f' (by decide) same.symm
  split
  · rename_i control
    exact .unit control
  · rename_i printed
    exact .plain (Nat.le_of_not_lt printed) unquoted unmarked

theorem controlDigits : ∀ n < 0x20, (Quoted.hexUnit n).all isHex = true := by decide

theorem controlUnit : ∀ n < 0x20,
    hexUnit (Digest.hexDigit (n / 4096)) (Digest.hexDigit (n / 256)) (Digest.hexDigit (n / 16))
      (Digest.hexDigit n) = n := by decide

theorem bodyStep (c : Char) (rest : List Char) :
    stringBody (escape c ++ rest) =
      (stringBody rest).map fun (raw, after) => (escape c ++ raw, after) := by
  have written := escapeForms c
  generalize escape c = chars at written
  cases written with
  | simple mark known same =>
    simp only [simpleEscapes, List.mem_cons, List.not_mem_nil, or_false] at known
    rcases known with rfl | rfl | rfl | rfl | rfl | rfl | rfl | rfl <;> rfl
  | unit control =>
    have digits := controlDigits c.toNat control
    simp only [Quoted.hexUnit, List.all_cons, Bool.and_eq_true] at digits
    obtain ⟨first, second, third, fourth, -⟩ := digits
    simp only [Quoted.hexUnit, List.cons_append, List.nil_append, stringBody, first, second, third,
      fourth, Bool.and_self, if_true]
  | plain printed unquoted unmarked =>
    have bare : ¬ (c.toNat < 0x20 || c = '\\') = true := by simp [printed, unmarked]
    rw [List.singleton_append, stringBody, if_neg bare]
    · rfl
    · exact unquoted
    · exact fun _ _ _ _ _ same => absurd same unmarked
    · exact fun _ _ same => absurd same unmarked

theorem unescapeStep (c : Char) (rest : List Char) :
    unescapeFrom none (escape c ++ rest) = (unescapeFrom none rest).map (c :: ·) := by
  have written := escapeForms c
  generalize escape c = chars at written
  cases written with
  | simple mark known same =>
    simp only [simpleEscapes, List.mem_cons, List.not_mem_nil, or_false] at known
    rcases known with rfl | rfl | rfl | rfl | rfl | rfl | rfl | rfl <;> rw [← same] <;> rfl
  | unit control =>
    have back := controlUnit c.toNat control
    have low : isHighHalf c.toNat = false ∧ isLowHalf c.toNat = false := by
      simp only [isHighHalf, isLowHalf]
      constructor <;> simp <;> omega
    simp only [Quoted.hexUnit, List.cons_append, List.nil_append, unescapeFrom, back, low,
      Char.ofNat_toNat, Bool.false_eq_true, if_false]
  | plain printed unquoted unmarked =>
    rw [List.singleton_append, unescapeFrom]
    · exact fun _ _ _ _ _ same => absurd same unmarked
    · exact fun _ _ same => absurd same unmarked

theorem bodyEscaped (text : String) (rest : List Char) :
    stringBody (escaped text ++ '"' :: rest) = some (escaped text, rest) := by
  unfold escaped
  induction text.toList with
  | nil => rfl
  | cons c chars ih => rw [List.flatMap_cons, List.append_assoc, bodyStep, ih, Option.map_some]

theorem unescapeEscaped (text : String) : unescape? (escaped text) = some text := by
  have chars : ∀ chars : List Char, unescapeFrom none (chars.flatMap escape) = some chars := by
    intro chars
    induction chars with
    | nil => rfl
    | cons c rest ih => rw [List.flatMap_cons, unescapeStep, ih, Option.map_some]
  rw [unescape?, escaped, chars, Option.map_some, String.ofList_toList]

end RequestSuite.Json
