import RequestSuite.Proofs.Decimal.Spelling

/-! Which spellings of a number are its text. Whatever was read, its text is read as the same number
and is its own text. -/
namespace RequestSuite.Decimal.Literal
open Text Number
open Json (IsRow)

theorem signedText (n : Int) :
    integerText n = wholeText (if n < 0 then some true else none) (Nat.toDigits 10 n.natAbs) := by
  rw [integerText]
  split <;> rfl

theorem integerBack {n : Int} (small : InSigned n) :
    number? (integerText n) = some (.integer n small.inWord) := by
  have value : signed ((if n < 0 then some true else none : Option Bool).getD false)
      (valueOf (Nat.toDigits 10 n.natAbs)) = n := by
    rw [Json.digitValue, signed]
    by_cases negative : n < 0
    · simp only [if_pos negative, Option.getD_some, if_true]
      omega
    · simp only [if_neg negative, Option.getD_none, Bool.false_eq_true, if_false]
      omega
  rw [number?, signedText, integerWhole _ (Json.digitRow _)]
  simp only [value, dif_pos small]

theorem digitLess {c : Char} (digit : isAsciiDigit c = true) :
    digitValue c < 10 ∧ Nat.digitChar (digitValue c) = c := by
  simp only [isAsciiDigit, Bool.and_eq_true, decide_eq_true_eq] at digit
  have low : 48 ≤ c.toNat := digit.1
  have high : c.toNat ≤ 57 := digit.2
  have chars : ∀ k < 10, (Nat.digitChar k).toNat = 48 + k := by decide
  have less : c.toNat - 48 < 10 := by omega
  refine ⟨less, Char.toNat_inj.1 ?_⟩
  rw [digitValue, chars _ less]
  omega

theorem spelledPositive {digits : List Char} (back : Nat.toDigits 10 (valueOf digits) = digits)
    (unpadded : digits.head? ≠ some '0') : 0 < valueOf digits := by
  refine Nat.pos_of_ne_zero fun zero => unpadded ?_
  rw [← back, zero]
  rfl

theorem digitsBack {digits : List Char} (row : IsRow digits) (unpadded : digits.head? ≠ some '0') :
    Nat.toDigits 10 (valueOf digits) = digits := by
  induction digits using List.reverseRecOn with
  | nil => exact absurd rfl row.filled
  | append_singleton digits c ih =>
    obtain ⟨less, char⟩ := digitLess (row.digits c (by simp))
    have value : valueOf (digits ++ [c]) = 10 * valueOf digits + digitValue c := by
      simp [valueOf]
    by_cases single : digits = []
    · subst single
      rw [value, valueOf, List.foldl_nil, Nat.mul_zero, Nat.zero_add,
        Nat.toDigits_of_lt_base less, char]
      rfl
    · have front : digits.head? ≠ some '0' := by
        rwa [List.head?_append_of_ne_nil _ single] at unpadded
      have back := ih ⟨single, fun x member => row.digits x (by simp [member])⟩ front
      have positive := spelledPositive back front
      rw [value, Nat.toDigits_of_base_le (by decide) (by omega)]
      have tens : (10 * valueOf digits + digitValue c) / 10 = valueOf digits := by omega
      have ones : (10 * valueOf digits + digitValue c) % 10 = digitValue c := by omega
      rw [tens, ones, back, char]

def IsPlainInteger (sign : Option Bool) (digits : List Char) : Prop :=
  sign ≠ some false ∧ (digits.head? = some '0' → sign = none ∧ digits = ['0'])

theorem wholeCancel {sign sign' : Option Bool} {digits digits' : List Char} (row : IsRow digits)
    (row' : IsRow digits') (same : wholeText sign digits = wholeText sign' digits') :
    sign = sign' ∧ digits = digits' := by
  have parts := congrArg splitSign same
  rw [wholeSign sign row, wholeSign sign' row'] at parts
  obtain ⟨minus, rfl⟩ := Prod.mk.inj parts
  refine ⟨?_, rfl⟩
  have lengths := congrArg List.length same
  match sign, sign' with
  | none, none => rfl
  | some true, some true => rfl
  | some false, some false => rfl
  | none, some false => simp [wholeText] at lengths
  | some false, none => simp [wholeText] at lengths

theorem signedSize (negative : Bool) (n : Nat) : (signed negative n).natAbs = n := by
  unfold signed
  split <;> simp

theorem plainOfKept {sign : Option Bool} {digits : List Char} (row : IsRow digits)
    (same : integerText (signed (sign.getD false) (valueOf digits)) = wholeText sign digits) :
    IsPlainInteger sign digits := by
  rw [signedText, signedSize] at same
  obtain ⟨signs, back⟩ := wholeCancel (Json.digitRow _) row same
  constructor
  · rintro rfl
    split at signs <;> simp at signs
  · intro zero
    have none : valueOf digits = 0 := by
      refine Nat.eq_zero_of_not_pos fun positive => Json.digitFirst positive ?_
      rw [back]
      exact zero
    rw [none] at back signs
    refine ⟨signs.symm.trans ?_, back.symm⟩
    cases sign.getD false <;> rfl

theorem keptOfPlain {sign : Option Bool} {digits : List Char} (row : IsRow digits)
    (plain : IsPlainInteger sign digits) :
    integerText (signed (sign.getD false) (valueOf digits)) = wholeText sign digits := by
  obtain ⟨unplus, unpadded⟩ := plain
  by_cases zero : digits.head? = some '0'
  · obtain ⟨rfl, rfl⟩ := unpadded zero
    rfl
  · have back := digitsBack row zero
    have positive := spelledPositive back zero
    rw [signedText, signedSize, back]
    match sign with
    | none =>
      have positive' : ¬ (valueOf digits : Int) < 0 := by omega
      simp [signed, positive']
    | some true => simp [signed, positive]
    | some false => exact absurd rfl unplus

theorem integerKept (sign : Option Bool) {digits : List Char} (row : IsRow digits) :
    integerText (signed (sign.getD false) (valueOf digits)) = wholeText sign digits ↔
      IsPlainInteger sign digits :=
  ⟨plainOfKept row, keptOfPlain row⟩

theorem signedFormed (negative : Bool) {y : Binary64} (formed : y.Formed) :
    (signedAs negative y).Formed := by
  obtain ⟨short, least, most, full⟩ := formed
  cases negative <;> exact ⟨short, least, most, full⟩

theorem zeroFormed : Binary64.zero.Formed := by
  constructor <;> simp [Binary64.zero]

theorem ratioFormed {x : Ratio} (den : 0 < x.den) {y : Binary64}
    (read : Binary64.ofRatio? x = some y) : y.Formed := by
  by_cases none : x.num = 0
  · rw [Binary64.ofRatio?, if_pos none] at read
    rw [← Option.some.inj read]
    exact zeroFormed
  · exact (Binary64.readingOf (Nat.pos_of_ne_zero none) den read).formed

theorem binaryFormed {text : List Char} {y : Binary64} (read : binary? text = some y) :
    y.Formed := by
  obtain ⟨t, formed, rfl⟩ := Numeral.binaryOf read
  rw [t.binaryRead formed] at read
  obtain ⟨x, reads, rfl⟩ := Option.map_eq_some_iff.1 read
  exact signedFormed _ (ratioFormed t.decimal.ratioDen reads)

theorem numberBack {text : List Char} {n : Number} (read : number? text = some n) :
    number? n.text = some n := by
  rw [number?] at read
  split at read
  · rename_i found
    obtain ⟨sign, digits, -, -, small, rfl⟩ := integerSome found
    rw [← Option.some.inj read]
    exact integerBack small
  · obtain ⟨y, found, rfl⟩ := Option.map_eq_some_iff.1 read
    exact binaryBack (binaryFormed found)

theorem wholeMember {sign : Option Bool} {digits : List Char} {c : Char}
    (member : c ∈ wholeText sign digits) : c = '-' ∨ c = '+' ∨ c ∈ digits := by
  match sign with
  | none => exact .inr (.inr member)
  | some true => exact (List.mem_cons.1 member).imp_right .inr
  | some false => exact .inr (List.mem_cons.1 member)

theorem wholeUnblank (sign : Option Bool) {digits : List Char} (row : IsRow digits) :
    ∀ c ∈ wholeText sign digits, isBlank c = false := by
  intro c member
  obtain rfl | rfl | digit := wholeMember member
  · rfl
  · rfl
  · exact digitUnblank (row.digits c digit)

theorem numberUnblank (n : Number) : ∀ c ∈ n.text, isBlank c = false := by
  cases n with
  | integer n fits =>
    rw [Number.text, signedText]
    exact wholeUnblank _ (Json.digitRow _)
  | binary y =>
    rw [Number.text, binaryShort]
    exact Scientific.textUnblank _ _

theorem wholeUnmarked (sign : Option Bool) {digits : List Char} (row : IsRow digits) :
    ∀ c ∈ wholeText sign digits, ¬ IsMark c := by
  rintro c member ⟨other, minus, plus⟩
  have digit := ((wholeMember member).resolve_left minus).resolve_left plus
  rw [row.digits c digit] at other
  contradiction

theorem wholeKept (sign : Option Bool) {digits : List Char} (row : IsRow digits) {n : Number}
    (read : number? (wholeText sign digits) = some n) :
    n.text = wholeText sign digits ↔
      InSigned (signed (sign.getD false) (valueOf digits)) ∧ IsPlainInteger sign digits := by
  rw [number?, integerWhole sign row] at read
  by_cases small : InSigned (signed (sign.getD false) (valueOf digits))
  · rw [dif_pos small] at read
    rw [← Option.some.inj read, and_iff_right small]
    exact integerKept sign row
  · rw [dif_neg small] at read
    obtain ⟨y, -, rfl⟩ := Option.map_eq_some_iff.1 read
    refine iff_of_false ?_ fun both => small both.1
    intro same
    obtain ⟨c, member, marked⟩ := Scientific.textMarked y.negative (Scientific.ofBinary y)
    rw [← binaryShort] at member
    rw [Number.text] at same
    rw [same] at member
    exact wholeUnmarked sign row c member marked

end RequestSuite.Decimal.Literal

namespace RequestSuite.Decimal.Scientific
open Literal

def first (x : Scientific) : Int := x.exponent + (Nat.toDigits 10 x.digits).length - 1

/- Zero, or at most fifteen digits up to one that is not zero, far from both ends of the range. -/
def IsStandard (x : Scientific) : Prop :=
  x = ⟨0, 0⟩ ∨ x.digits % 10 ≠ 0 ∧ x.digits < 10 ^ 15 ∧ -307 ≤ x.first ∧ x.first ≤ 307

theorem firstBound {x : Scientific} (filled : 0 < x.digits) :
    (10 : ℚ) ^ x.first ≤ x.value ∧ x.value < 10 ^ (x.first + 1) := by
  obtain ⟨least, most⟩ := Binary64.digitsBound filled
  have unit : (0 : ℚ) < 10 ^ x.exponent := by positivity
  constructor
  · calc (10 : ℚ) ^ x.first
        = 10 ^ ((Nat.toDigits 10 x.digits).length - 1 : Int) * 10 ^ x.exponent := by
          rw [← zpow_add₀ (by norm_num), first]
          congr 1
          ring
      _ ≤ x.value := by
          rw [value]
          gcongr
  · calc x.value < 10 ^ ((Nat.toDigits 10 x.digits).length : Int) * 10 ^ x.exponent := by
          rw [value]
          gcongr
      _ = 10 ^ (x.first + 1) := by
          rw [← zpow_add₀ (by norm_num), first]
          congr 1
          ring

theorem signedRead (x : Scientific) (negative : Bool) {y : Binary64} :
    x.readsAs (signedAs negative y) = x.readsAs y := by
  cases negative <;> rfl

theorem standardKept (negative : Bool) {x : Scientific} (standard : x.IsStandard) :
    ∃ n, number? (minus negative ++ x.text) = some n ∧
      n.text = minus negative ++ x.text := by
  rw [textRead]
  obtain rfl | ⟨last, short, least, most⟩ := standard
  · exact ⟨.binary (signedAs negative .zero), rfl, by cases negative <;> rfl⟩
  · have filled : 0 < x.digits := by omega
    obtain ⟨below, above⟩ := firstBound filled
    have kept : x.Short := by
      refine ⟨last, short, (Binary64.leastNormal.trans ?_).trans below⟩
      exact zpow_le_zpow_right₀ (by norm_num) least
    have within : x.ratio.value ≤ (2 ^ 53 - 1) * 2 ^ (971 : Int) := by
      rw [ratioValue]
      refine (above.le.trans ?_).trans Binary64.largestBeyond
      exact zpow_le_zpow_right₀ (by norm_num) (by omega)
    obtain ⟨y, reads⟩ := Binary64.readsWithin (ratioNum.2 filled) x.ratioDen within
    have unsigned := (Binary64.readingOf (ratioNum.2 filled) x.ratioDen reads).unsigned
    refine ⟨.binary (signedAs negative y), by rw [reads]; rfl, ?_⟩
    have hit : x.readsAs (signedAs negative y) = true := by
      rw [signedRead]
      simp [readsAs, reads]
    rw [Number.text, Number.binaryShort, kept.comesBack hit]
    have sign : (signedAs negative y).negative = negative := by
      cases negative <;> simp [signedAs, Binary64.negate, unsigned]
    rw [sign]

end RequestSuite.Decimal.Scientific
