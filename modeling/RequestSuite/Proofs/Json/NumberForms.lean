import RequestSuite.Proofs.Decimal.ShortestDigits
import RequestSuite.Proofs.Json.Printing

/-! Every number is written as a reader of JSON wants it: digits without a zero in front, a fraction
only with digits behind its point, and an exponent with a sign and digits. So the reader finds the
parts of any number, whatever its value is. -/
namespace RequestSuite.Decimal.Scientific

theorem readsAsFilled {x : Scientific} {value : Binary64} (filled : 0 < value.significand)
    (reads : x.readsAs value = true) : 0 < x.digits := by
  refine Nat.pos_of_ne_zero fun none => ?_
  have zero : Binary64.ofRatio? x.ratio = some .zero := by
    rw [Binary64.ofRatio?, if_pos]
    exact Nat.eq_zero_of_not_pos fun some => absurd (ratioNum.1 some) (by omega)
  rw [readsAs, zero] at reads
  simp [Binary64.zero, filled.ne] at reads

theorem searchFilled {value : Binary64} (filled : 0 < value.significand) (top : Int)
    (used count : Nat) : 0 < (search value top used count).digits := by
  induction count generalizing used with
  | zero => exact filled
  | succ count ih =>
    rw [search]
    split
    · rename_i found
      have reads := List.find?_some found
      exact readsAsFilled filled reads
    · exact ih (used + 1)

theorem ofBinaryFilled {value : Binary64} (filled : value.isZero = false) :
    0 < (ofBinary value).digits := by
  have some : 0 < value.significand := Nat.pos_of_ne_zero (by simpa [Binary64.isZero] using filled)
  rw [ofBinary, if_neg (by simp [filled])]
  exact dropZerosPositive (searchFilled some _ 0 17) _ 18

end RequestSuite.Decimal.Scientific

namespace RequestSuite.Json
open Text Decimal NumberText

def IsNumeral (negative : Bool) (chars : List Char) : Prop :=
  ∃ text : NumberText, text.Formed ∧ text.spelled = (if negative then ['-'] else []) ++ chars

theorem rowParts {row : List Char} (digits : IsRow row) {n : Nat} (some : 0 < n)
    (inside : n < row.length) : IsRow (row.take n) ∧ IsRow (row.drop n) := by
  refine ⟨⟨?_, fun c member => digits.digits c (List.mem_of_mem_take member)⟩,
    ⟨?_, fun c member => digits.digits c (List.mem_of_mem_drop member)⟩⟩
  · simpa [some.ne'] using digits.filled
  · simpa using inside

theorem rowPadded {row : List Char} (digits : IsRow row) (n : Nat) :
    IsRow (row ++ List.replicate n '0') ∧ IsRow (List.replicate n '0' ++ row) := by
  have zeros : ∀ c ∈ List.replicate n '0', isAsciiDigit c = true := fun c member => by
    rw [List.eq_of_mem_replicate member]
    rfl
  exact ⟨⟨by simp [digits.filled], List.forall_mem_append.2 ⟨digits.digits, zeros⟩⟩,
    ⟨by simp [digits.filled], List.forall_mem_append.2 ⟨zeros, digits.digits⟩⟩⟩

theorem positionalNumeral (negative : Bool) {row : List Char} (digits : IsRow row)
    (unpadded : row.head? ≠ some '0') (whole : Int) :
    IsNumeral negative (Number.positional row whole) := by
  have unmarked : ∀ mark ∈ (none : Option (Bool × List Char)), IsRow mark.2 := nofun
  unfold Number.positional
  split
  · refine ⟨⟨negative, ['0'], some (List.replicate (-whole).toNat '0' ++ row), none⟩,
      ⟨⟨by simp, by simp [isAsciiDigit]⟩, fun _ => rfl, ?_, unmarked⟩, ?_⟩
    · rintro _ ⟨⟩
      exact (rowPadded digits _).2
    · simp [spelled, fractionChars, exponentChars]
  rename_i above
  split
  · refine ⟨⟨negative, row ++ List.replicate (whole.toNat - row.length) '0', some ['0'], none⟩,
      ⟨(rowPadded digits _).1, ?_, ?_, unmarked⟩, ?_⟩
    · intro zero
      rw [List.head?_append_of_ne_nil _ digits.filled] at zero
      contradiction
    · rintro _ ⟨⟩
      exact ⟨by simp, by simp [isAsciiDigit]⟩
    · simp [spelled, fractionChars, exponentChars]
  · rename_i beyond
    have parts := rowParts digits (n := whole.toNat) (by omega) (by omega)
    refine ⟨⟨negative, row.take whole.toNat, some (row.drop whole.toNat), none⟩,
      ⟨parts.1, ?_, ?_, unmarked⟩, ?_⟩
    · intro zero
      rw [List.head?_take, if_neg (by omega)] at zero
      contradiction
    · rintro _ ⟨⟩
      exact parts.2
    · simp [spelled, fractionChars, exponentChars]

theorem scientificNumeral (negative : Bool) {row : List Char} (digits : IsRow row)
    (unpadded : row.head? ≠ some '0') (exponent : Int) :
    IsNumeral negative (Number.scientific Number.format row exponent) := by
  have mark : ∀ mark ∈ some (decide (exponent < 0), Nat.toDigits 10 exponent.natAbs),
      IsRow mark.2 := by
    rintro _ ⟨⟩
    exact digitRow _
  unfold Number.scientific
  by_cases single : row.length ≤ 1
  · refine ⟨⟨negative, row, none, some (exponent < 0, Nat.toDigits 10 exponent.natAbs)⟩,
      ⟨digits, fun zero => absurd zero unpadded, nofun, mark⟩, ?_⟩
    simp [spelled, fractionChars, exponentChars, single, Number.format]
  · have parts := rowParts digits one_pos (by omega)
    refine ⟨⟨negative, row.take 1, some (row.drop 1),
      some (exponent < 0, Nat.toDigits 10 exponent.natAbs)⟩, ⟨parts.1, ?_, ?_, mark⟩, ?_⟩
    · intro zero
      rw [List.head?_take, if_neg one_ne_zero] at zero
      contradiction
    · rintro _ ⟨⟩
      exact parts.2
    · simp [spelled, fractionChars, exponentChars, single, Number.format]

theorem magnitudeNumeral (negative : Bool) (x : Binary64) :
    IsNumeral negative (Number.magnitudeText Number.format x) := by
  unfold Number.magnitudeText
  split
  · refine ⟨⟨negative, ['0'], some ['0'], none⟩,
      ⟨⟨by simp, by simp [isAsciiDigit]⟩, fun _ => rfl, ?_, nofun⟩, ?_⟩
    · rintro _ ⟨⟩
      exact ⟨by simp, by simp [isAsciiDigit]⟩
    · simp [spelled, fractionChars, exponentChars]
  · rename_i filled
    have row := digitRow (Scientific.ofBinary x).digits
    have unpadded := digitFirst (Scientific.ofBinaryFilled (Bool.eq_false_iff.2 filled))
    dsimp only
    split
    · exact positionalNumeral negative row unpadded _
    · exact scientificNumeral negative row unpadded _

theorem numberLexical (n : Number) : Lexical n := by
  cases n with
  | integer n fits => exact (integerLexical n fits).1
  | binary x =>
    obtain ⟨text, formed, spelled⟩ := magnitudeNumeral x.negative x
    refine (literalOf formed ?_).1
    rw [spelled, Number.text, Number.binaryText]
    cases x.negative <;> rfl

namespace Value

mutual
theorem isLexical (value : Value) : value.IsLexical := by
  match value with
  | null | bool _ | string _ => trivial
  | number n => exact numberLexical n
  | array items => exact itemsLexical items
  | object members => exact membersLexical members

theorem itemsLexical (items : List Value) : ItemsLexical items := by
  match items with
  | [] => trivial
  | item :: rest => exact ⟨isLexical item, itemsLexical rest⟩

theorem membersLexical (members : List (String × Value)) : MembersLexical members := by
  match members with
  | [] => trivial
  | (_, value) :: rest => exact ⟨isLexical value, membersLexical rest⟩
end

theorem prettyTokens (value : Value) (level : Nat) :
    tokens? (value.prettyChars level) = some value.toTree.tokens := by
  have read := readsPretty (isLexical value) level delimitsNil
  rwa [Reads, tokens?, Option.map_some, List.append_nil, List.append_nil] at read

theorem prettyTree (value : Value) (level : Nat) :
    Tree.ofText? (value.prettyChars level) = some value.toTree := by
  rw [Tree.ofText?, prettyTokens, Option.bind_some, Tree.ofOwnTokens]

end Value

end RequestSuite.Json
