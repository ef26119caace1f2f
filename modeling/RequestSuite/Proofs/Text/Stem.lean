import RequestSuite.Proofs.Files.Descent
import RequestSuite.Text.Stem

/-! Names of numbered nodes. The number can be read back from the digits in front, however many they
are and whatever comes after the underscore, so nodes with different numbers have different names.
All characters are small ASCII letters, digits and underscores. -/
namespace RequestSuite.Text.Stem
open Files.Path (IsPlain)

def isStemChar (c : Char) : Bool := c.isLower || c.isDigit || c == '_'

def number? (name : String) : Option Nat :=
  match name.toList.takeWhile Char.isDigit with
  | [] => none
  | digits => some (Nat.ofDigitChars 10 digits 0)

theorem paddedDigits (number : Nat) : ∀ c ∈ padded number, c.isDigit = true := by
  intro c member
  rcases List.mem_append.1 member with zero | digit
  · rw [List.eq_of_mem_replicate zero]
    rfl
  · exact Nat.isDigit_of_mem_toDigits (by decide) (by decide) digit

theorem paddedValue (number : Nat) : Nat.ofDigitChars 10 (padded number) 0 = number := by
  simp only [padded, Nat.ofDigitChars_append, Nat.ofDigitChars_replicate_zero, Nat.mul_zero,
    Nat.ofDigitChars_ten_toDigits]

theorem paddedSome (number : Nat) : padded number ≠ [] := by
  intro none
  have digits := congrArg List.length none
  simp only [padded, List.length_append, List.length_replicate, List.length_nil] at digits
  omega

theorem numberBack (number : Nat) (name rest : String) :
    number? (numbered number name ++ rest) = some number := by
  have front : (numbered number name ++ rest).toList.takeWhile Char.isDigit = padded number := by
    simp only [numbered, String.toList_append, String.toList_ofList, List.append_assoc,
      List.cons_append]
    rw [List.takeWhile_append_of_pos (paddedDigits number),
      List.takeWhile_cons_of_neg (by decide), List.append_nil]
  unfold number?
  rw [front]
  split
  · rename_i none
    exact absurd none (paddedSome number)
  · rw [paddedValue]

theorem numberOf (number : Nat) (name : String) : number? (numbered number name) = some number := by
  have back := numberBack number name ""
  rwa [String.append_empty] at back

theorem plainNumber {name : String} {number : Nat} (found : number? name = some number) :
    IsPlain name := by
  refine ⟨?_, ?_⟩
  · simp only [Files.Path.isName, Bool.and_eq_true, decide_eq_true_eq]
    constructor
    · rintro rfl
      contradiction
    · rintro rfl
      contradiction
  · rintro rfl
    contradiction

theorem upperRow {c : Char} : c.isUpper = true ↔ 'A'.val ≤ c.val ∧ c.val ≤ 'Z'.val :=
  decide_eq_true_iff

theorem lowerRow {c : Char} : c.isLower = true ↔ 'a'.val ≤ c.val ∧ c.val ≤ 'z'.val := by
  have row : c.isLower = (decide (c.val ≥ 'a'.val) && decide (c.val ≤ 'z'.val)) := rfl
  rw [row, Bool.and_eq_true, decide_eq_true_iff, decide_eq_true_iff]

theorem keptClasses (c : Char) : isKept c = (c.isUpper || c.isLower || c.isDigit) := rfl

theorem lowerSmall {c : Char} (kept : isKept c = true) :
    c.toLower.isLower = true ∨ c.toLower.isDigit = true := by
  by_cases upper : c.isUpper = true
  · have letters := upperRow.1 upper
    have row : 65 ≤ c.val.toNat ∧ c.val.toNat ≤ 90 := letters
    have moved : c.toLower.val.toNat = c.val.toNat + 32 := by
      unfold Char.toLower
      rw [dif_pos letters, UInt32.toNat_add]
      have distance : ('a'.val - 'A'.val).toNat = 32 := by decide
      omega
    left
    rw [lowerRow, UInt32.le_iff_toNat_le, UInt32.le_iff_toNat_le, moved]
    have first : 'a'.val.toNat = 97 := by decide
    have last : 'z'.val.toNat = 122 := by decide
    omega
  · have same : c.toLower = c := dif_neg fun letters => upper (upperRow.2 letters)
    have plain : c.isUpper = true ∨ c.isLower = true ∨ c.isDigit = true := by
      rw [keptClasses, Bool.or_eq_true, Bool.or_eq_true, or_assoc] at kept
      exact kept
    rw [same]
    exact plain.resolve_left upper

theorem lowerKept {c : Char} (kept : isKept c = true) : isStemChar c.toLower = true := by
  rcases lowerSmall kept with small | digit
  · simp [isStemChar, small]
  · simp [isStemChar, digit]

theorem collapseChars (gap : Bool) (text : List Char) :
    ∀ c ∈ collapse gap text, isStemChar c = true := by
  induction text generalizing gap with
  | nil => simp [collapse]
  | cons first rest ih =>
    intro c member
    unfold collapse at member
    split at member
    · rename_i kept
      rcases List.mem_cons.1 member with rfl | later
      · exact lowerKept kept
      · exact ih false c later
    · split at member
      · exact ih true c member
      · rcases List.mem_cons.1 member with rfl | later
        · rfl
        · exact ih true c later

theorem numberedChars (number : Nat) (name : String) :
    ∀ c ∈ (numbered number name).toList, isStemChar c = true := by
  intro c member
  rw [numbered, String.toList_ofList] at member
  rcases List.mem_append.1 member with digit | rest
  · simp [isStemChar, paddedDigits number c digit]
  · rcases List.mem_cons.1 rest with rfl | later
    · rfl
    · exact collapseChars false name.toList c later

end RequestSuite.Text.Stem
