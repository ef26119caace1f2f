import RequestSuite.Proofs.Decimal.Numerals
import RequestSuite.Proofs.Text.Padding

/-! The text of a number is read as the number. -/
namespace RequestSuite.Decimal.Literal
open Text Json

def minus (negative : Bool) : List Char := if negative then ['-'] else []

def exponentValue : Option (Bool × List Char) → Int
  | none => 0
  | some (negative, digits) => signed negative (valueOf digits)

def decimal (text : NumberText) : Scientific :=
  ⟨valueOf (text.whole ++ text.fraction.getD []),
    exponentValue text.exponent - (text.fraction.getD []).length⟩

def numeral (text : NumberText) : Numeral :=
  ⟨if text.negative then some true else none, text.whole, text.fraction,
    text.exponent.map fun mark => ('e', some mark.1, mark.2)⟩

theorem numeralSpelled (text : NumberText) : (numeral text).chars = text.spelled := by
  obtain ⟨negative, row, part, mark⟩ := text
  have marked : Numeral.exponentChars (mark.map fun mark => ('e', some mark.1, mark.2)) =
      NumberText.exponentChars mark := by
    match mark with
    | none => rfl
    | some (true, _) => rfl
    | some (false, _) => rfl
  simp only [numeral, Numeral.chars, Numeral.body, NumberText.spelled, marked]
  cases negative <;> rfl

theorem numeralDecimal (text : NumberText) : (numeral text).decimal = decimal text := by
  obtain ⟨negative, row, part, mark⟩ := text
  cases mark <;> rfl

theorem numeralNegative (text : NumberText) : (numeral text).negative = text.negative := by
  obtain ⟨negative, row, part, mark⟩ := text
  cases negative <;> rfl

structure Spells (text : NumberText) (x : Scientific) : Prop where
  whole : IsRow text.whole
  fraction : ∀ digits ∈ text.fraction, ∀ c ∈ digits, isAsciiDigit c = true
  exponent : ∀ mark ∈ text.exponent, IsRow mark.2
  marked : text.fraction.isSome ∨ text.exponent.isSome
  value : (decimal text).value = x.value

theorem spellsMarked {text : NumberText} {x : Scientific} (spells : Spells text x) :
    ∃ c ∈ text.spelled, IsMark c := by
  obtain ⟨negative, row, part, mark⟩ := text
  obtain point | exponent := spells.marked
  · obtain ⟨digits, rfl⟩ := Option.isSome_iff_exists.1 point
    exact ⟨'.', by simp [NumberText.spelled, NumberText.fractionChars], rfl, by decide⟩
  · obtain ⟨digits, rfl⟩ := Option.isSome_iff_exists.1 exponent
    exact ⟨'e', by simp [NumberText.spelled, NumberText.exponentChars], rfl, by decide⟩

theorem digitUnblank {c : Char} (digit : isAsciiDigit c = true) : isBlank c = false := by
  refine Bool.eq_false_iff.2 fun blank => ?_
  have other := blankUndecimal blank
  rw [isDecimalOfIsAsciiDigit digit] at other
  contradiction

theorem spellsUnblank {text : NumberText} {x : Scientific} (spells : Spells text x) :
    ∀ c ∈ text.spelled, isBlank c = false := by
  obtain ⟨negative, row, part, mark⟩ := text
  obtain ⟨whole, fraction, exponent, -, -⟩ := spells
  intro c member
  simp only [NumberText.spelled, List.mem_append] at member
  obtain sign | digit | point | exponential := member
  · cases negative
    · contradiction
    · rw [List.mem_singleton.1 sign]
      rfl
  · exact digitUnblank (whole.digits c digit)
  · cases part with
    | none => contradiction
    | some digits =>
      obtain rfl | digit := List.mem_cons.1 point
      · rfl
      · exact digitUnblank (fraction digits rfl c digit)
  · cases mark with
    | none => contradiction
    | some parts =>
      obtain rfl | rest := List.mem_cons.1 exponential
      · rfl
      · obtain rfl | digit := List.mem_cons.1 rest
        · split <;> rfl
        · exact digitUnblank ((exponent parts rfl).digits c digit)

theorem spellsFormed {text : NumberText} {x : Scientific} (spells : Spells text x) :
    (numeral text).Formed := by
  refine ⟨spells.whole.digits, spells.fraction, ?_, ?_⟩
  · exact List.append_ne_nil_of_left_ne_nil spells.whole.filled _
  · intro part found
    obtain ⟨mark, there, rfl⟩ := Option.map_eq_some_iff.1 found
    exact ⟨.inl rfl, spells.exponent mark there⟩

theorem spellsRead {text : NumberText} {x : Scientific} (spells : Spells text x) :
    number? text.spelled =
      ((Binary64.ofRatio? x.ratio).map (signedAs text.negative)).map .binary := by
  obtain ⟨c, member, marked⟩ := spellsMarked spells
  have read := (numeral text).binaryRead (spellsFormed spells)
  rw [numeralSpelled, numeralDecimal, numeralNegative,
    Scientific.readCongr spells.value] at read
  rw [number?, integerNone member marked, read]

end RequestSuite.Decimal.Literal

namespace RequestSuite.Decimal.Scientific
open Text Literal
open Json (NumberText IsRow)

def text (x : Scientific) : List Char :=
  let digits := Nat.toDigits 10 x.digits
  let exponent := x.exponent + digits.length - 1
  if Number.format.least ≤ exponent ∧ exponent ≤ Number.format.most then
    Number.positional digits (exponent + 1)
  else Number.scientific Number.format digits exponent

theorem magnitudeShort (y : Binary64) :
    Number.magnitudeText Number.format y = (ofBinary y).text := by
  rw [Number.magnitudeText]
  split
  · rename_i zero
    rw [ofBinary, if_pos zero]
    rfl
  · simp only [text, Bool.and_eq_true, decide_eq_true_eq]

theorem rowTake {row : List Char} (digits : IsRow row) {n : Nat} (positive : 0 < n) :
    IsRow (row.take n) := by
  refine ⟨?_, fun c member => digits.digits c (List.mem_of_mem_take member)⟩
  simpa [positive.ne'] using digits.filled

theorem zeroDigits (n : Nat) : ∀ c ∈ List.replicate n '0', isAsciiDigit c = true := by
  intro c member
  rw [List.eq_of_mem_replicate member]
  rfl

theorem valueFront (n : Nat) (digits : List Char) :
    valueOf (List.replicate n '0' ++ digits) = valueOf digits := by
  rw [valueChars, Nat.ofDigitChars_append, Nat.ofDigitChars_replicate_zero, Nat.mul_zero,
    valueChars]

theorem valueBehind (digits : List Char) (n : Nat) :
    valueOf (digits ++ List.replicate n '0') = valueOf digits * 10 ^ n := by
  rw [valueChars, Nat.ofDigitChars_append, Nat.ofDigitChars_replicate_zero, Nat.mul_comm,
    valueChars]

structure Spelling (negative : Bool) (chars : List Char) (x : Scientific) (text : NumberText) :
    Prop where
  sign : text.negative = negative
  spelled : text.spelled = minus negative ++ chars
  spells : Spells text x

theorem unexponented : ∀ mark ∈ (none : Option (Bool × List Char)), IsRow mark.2 :=
  fun _ member => absurd member (Option.not_mem_none _)

theorem spellsSmall (negative : Bool) {digits : List Char} (row : IsRow digits) (zeros : Nat) :
    ∃ text, Spelling negative ('0' :: '.' :: (List.replicate zeros '0' ++ digits))
      ⟨valueOf digits, -zeros - digits.length⟩ text := by
  refine ⟨⟨negative, ['0'], some (List.replicate zeros '0' ++ digits), none⟩, rfl, ?_,
    ⟨by simp, by simp [isAsciiDigit]⟩, ?_, unexponented, .inl rfl, ?_⟩
  · simp [NumberText.spelled, NumberText.fractionChars, NumberText.exponentChars, minus]
  · rintro _ ⟨⟩ c member
    exact (List.mem_append.1 member).elim (zeroDigits _ c) (row.digits c)
  · have front := valueFront (zeros + 1) digits
    rw [List.replicate_succ, List.cons_append] at front
    have point : (0 : Int) - (List.replicate zeros '0' ++ digits).length =
        -zeros - digits.length := by
      rw [List.length_append, List.length_replicate]
      omega
    simp only [decimal, Option.getD_some, List.singleton_append, exponentValue, front, point]

theorem spellsLarge (negative : Bool) {digits : List Char} (row : IsRow digits) (zeros : Nat) :
    ∃ text, Spelling negative (digits ++ List.replicate zeros '0' ++ ['.', '0'])
      ⟨valueOf digits, zeros⟩ text := by
  refine ⟨⟨negative, digits ++ List.replicate zeros '0', some ['0'], none⟩, rfl, ?_,
    ⟨by simp [row.filled], ?_⟩, ?_, unexponented, .inl rfl, ?_⟩
  · simp [NumberText.spelled, NumberText.fractionChars, NumberText.exponentChars, minus]
  · intro c member
    exact (List.mem_append.1 member).elim (row.digits c) (zeroDigits _ c)
  · rintro _ ⟨⟩ c member
    exact zeroDigits 1 c member
  · have behind := valueBehind digits (zeros + 1)
    rw [List.replicate_succ', ← List.append_assoc] at behind
    have shift : ((zeros : Int) - -1).toNat = zeros + 1 := by omega
    rw [valueRescaled ⟨valueOf digits, zeros⟩ (g := -1) (by dsimp only; omega)]
    simp only [decimal, Option.getD_some, exponentValue, behind, shift]
    rfl

theorem spellsPointed (negative : Bool) {digits : List Char} (row : IsRow digits) {whole : Nat}
    (some : 0 < whole) (inside : whole ≤ digits.length) :
    ∃ text, Spelling negative (digits.take whole ++ '.' :: digits.drop whole)
      ⟨valueOf digits, whole - digits.length⟩ text := by
  refine ⟨⟨negative, digits.take whole, .some (digits.drop whole), none⟩, rfl, ?_,
    rowTake row some, ?_, unexponented, .inl rfl, ?_⟩
  · simp [NumberText.spelled, NumberText.fractionChars, NumberText.exponentChars, minus]
  · rintro _ ⟨⟩ c member
    exact row.digits c (List.mem_of_mem_drop member)
  · have point : (0 : Int) - (digits.drop whole).length = whole - digits.length := by
      rw [List.length_drop]
      omega
    simp only [decimal, Option.getD_some, List.take_append_drop, exponentValue, point]

theorem positionalSpells (negative : Bool) {digits : List Char} (row : IsRow digits) (whole : Int) :
    ∃ text, Spelling negative (Number.positional digits whole)
      ⟨valueOf digits, whole - digits.length⟩ text := by
  unfold Number.positional
  by_cases before : whole ≤ 0
  · obtain ⟨zeros, same⟩ := Int.eq_ofNat_of_zero_le (Int.neg_nonneg_of_nonpos before)
    obtain rfl : whole = -(zeros : Int) := by omega
    rw [if_pos before, same, Int.toNat_natCast]
    exact spellsSmall negative row zeros
  · obtain ⟨whole, rfl⟩ := Int.eq_ofNat_of_zero_le (Int.not_le.1 before).le
    rw [if_neg before, Int.toNat_natCast]
    by_cases after : digits.length ≤ whole
    · rw [if_pos after, ← Int.ofNat_sub after]
      exact spellsLarge negative row (whole - digits.length)
    · rw [if_neg after]
      exact spellsPointed negative row (by omega) (not_le.1 after).le

theorem scientificSpells (negative : Bool) {digits : List Char} (row : IsRow digits)
    (exponent : Int) :
    ∃ text, Spelling negative (Number.scientific Number.format digits exponent)
      ⟨valueOf digits, exponent + 1 - digits.length⟩ text := by
  have mark : ∀ mark ∈ some (decide (exponent < 0), Nat.toDigits 10 exponent.natAbs),
      IsRow mark.2 := by
    rintro _ ⟨⟩
    exact Json.digitRow _
  have value : exponentValue (some (decide (exponent < 0), Nat.toDigits 10 exponent.natAbs)) =
      exponent := by
    simp only [exponentValue, signed, Json.digitValue, decide_eq_true_eq]
    split <;> omega
  unfold Number.scientific
  by_cases single : digits.length ≤ 1
  · have one : digits.length = 1 := by
      have some := List.length_pos_iff.2 row.filled
      omega
    refine ⟨⟨negative, digits, none, some (exponent < 0, Nat.toDigits 10 exponent.natAbs)⟩, rfl,
      ?_, row, nofun, mark, .inr rfl, ?_⟩
    · simp [NumberText.spelled, NumberText.fractionChars, NumberText.exponentChars, single,
        Number.format, minus]
    · simp [decimal, value, one]
  · refine ⟨⟨negative, digits.take 1, some (digits.drop 1),
      some (exponent < 0, Nat.toDigits 10 exponent.natAbs)⟩, rfl, ?_, rowTake row one_pos, ?_,
      mark, .inr rfl, ?_⟩
    · simp [NumberText.spelled, NumberText.fractionChars, NumberText.exponentChars, single,
        Number.format, minus]
    · rintro _ ⟨⟩ c member
      exact row.digits c (List.mem_of_mem_drop member)
    · have point : exponent - (digits.drop 1).length = exponent + 1 - digits.length := by
        rw [List.length_drop]
        omega
      simp only [decimal, Option.getD_some, List.take_append_drop, value, point]

theorem textSpelled (negative : Bool) (x : Scientific) :
    ∃ text, Spelling negative x.text x text := by
  have row := Json.digitRow x.digits
  have value := Json.digitValue x.digits
  have last : x.exponent + (Nat.toDigits 10 x.digits).length - 1 + 1 -
      (Nat.toDigits 10 x.digits).length = x.exponent := by omega
  rw [Scientific.text]
  split
  · have written := positionalSpells negative row
      (x.exponent + (Nat.toDigits 10 x.digits).length - 1 + 1)
    rwa [value, last] at written
  · have written := scientificSpells negative row
      (x.exponent + (Nat.toDigits 10 x.digits).length - 1)
    rwa [value, last] at written

theorem textMarked (negative : Bool) (x : Scientific) :
    ∃ c ∈ minus negative ++ x.text, IsMark c := by
  obtain ⟨text, -, spelled, spells⟩ := textSpelled negative x
  rw [← spelled]
  exact spellsMarked spells

theorem textUnblank (negative : Bool) (x : Scientific) :
    ∀ c ∈ minus negative ++ x.text, isBlank c = false := by
  obtain ⟨text, -, spelled, spells⟩ := textSpelled negative x
  rw [← spelled]
  exact spellsUnblank spells

theorem textRead (negative : Bool) (x : Scientific) :
    number? (minus negative ++ x.text) =
      ((Binary64.ofRatio? x.ratio).map (signedAs negative)).map .binary := by
  obtain ⟨text, sign, spelled, spells⟩ := textSpelled negative x
  rw [← spelled, spellsRead spells, sign]

end RequestSuite.Decimal.Scientific

namespace RequestSuite.Decimal.Number
open Text Literal
open Json (NumberText IsRow)

theorem binaryShort (y : Binary64) :
    binaryText y = minus y.negative ++ (Scientific.ofBinary y).text := by
  rw [binaryText, Scientific.magnitudeShort]
  cases y.negative <;> rfl

theorem binaryBack {y : Binary64} (formed : y.Formed) :
    number? (binaryText y) = some (.binary y) := by
  rw [binaryShort, Scientific.textRead]
  obtain zero | filled := Nat.eq_zero_or_pos y.significand
  · have least : y.exponent = -1074 := by
      refine formed.full.resolve_left ?_
      rw [zero]
      decide
    obtain ⟨negative, significand, exponent⟩ := y
    obtain rfl : significand = 0 := zero
    obtain rfl : exponent = -1074 := least
    cases negative <;> rfl
  · obtain ⟨positive, reads⟩ := Scientific.ofBinaryReads formed filled
    rw [(Scientific.readsAsSome positive).1 reads]
    obtain ⟨negative, significand, exponent⟩ := y
    cases negative <;> rfl

end RequestSuite.Decimal.Number
