import RequestSuite.Decimal.Literal
import RequestSuite.Proofs.Decimal.ShortestDigits
import RequestSuite.Proofs.Json.Numbers

/-! The texts that are read as numbers: a sign, digits around a point and an exponent. A numeral
without point and exponent in the range of signed words is that integer; any other is the nearest
binary number to its value, unless this lies beyond the range. -/
namespace RequestSuite.Decimal

structure Numeral where
  sign : Option Bool
  whole : List Char
  fraction : Option (List Char)
  exponent : Option (Char × Option Bool × List Char)

namespace Literal
open Text Number
open Json (IsRow Stops splitRow)

def wholeText (sign : Option Bool) (digits : List Char) : List Char :=
  match sign with
  | none => digits
  | some true => '-' :: digits
  | some false => '+' :: digits

def signedAs (negative : Bool) (x : Binary64) : Binary64 := if negative then x.negate else x

def InSigned (n : Int) : Prop := -0x8000000000000000 ≤ n ∧ n < 0x8000000000000000

instance (n : Int) : Decidable (InSigned n) := inferInstanceAs (Decidable (_ ∧ _))

theorem InSigned.inWord {n : Int} (small : InSigned n) : InWord n :=
  ⟨small.1, small.2.trans (by decide)⟩

def IsMark (c : Char) : Prop := isAsciiDigit c = false ∧ c ≠ '-' ∧ c ≠ '+'

theorem markSplit {text : List Char} (mark : ∀ c ∈ text.head?, c ≠ '-' ∧ c ≠ '+')
    (sign : Option Bool) : splitSign (wholeText sign text) = (sign.getD false, text) := by
  match sign with
  | some true => rfl
  | some false => rfl
  | none =>
    rw [wholeText, splitSign]
    · rfl
    · rintro rest rfl
      exact (mark '-' rfl).1 rfl
    · rintro rest rfl
      exact (mark '+' rfl).2 rfl

theorem signSplit (text : List Char) : ∃ sign, text = wholeText sign (splitSign text).2 := by
  unfold splitSign
  split
  · exact ⟨some true, rfl⟩
  · exact ⟨some false, rfl⟩
  · exact ⟨none, rfl⟩

theorem digitUnsigned {c : Char} (digit : isAsciiDigit c = true) : c ≠ '-' ∧ c ≠ '+' := by
  constructor <;> rintro rfl <;> exact absurd digit (by decide)

theorem rowUnsigned {row : List Char} (digits : IsRow row) (rest : List Char) :
    ∀ c ∈ (row ++ rest).head?, c ≠ '-' ∧ c ≠ '+' := by
  intro c first
  rw [List.head?_append_of_ne_nil _ digits.filled] at first
  exact digitUnsigned (digits.digits c (List.mem_of_mem_head? first))

theorem wholeSign (sign : Option Bool) {digits : List Char} (row : IsRow digits) :
    splitSign (wholeText sign digits) = (sign.getD false, digits) := by
  have unsigned := rowUnsigned row []
  rw [List.append_nil] at unsigned
  exact markSplit unsigned sign

theorem integerWhole (sign : Option Bool) {digits : List Char} (row : IsRow digits) :
    integer? (wholeText sign digits) =
      if h : InSigned (signed (sign.getD false) (valueOf digits)) then
        some (.integer _ h.inWord)
      else none := by
  have filled : digits.isEmpty = false := by simpa using row.filled
  have all : digits.all isAsciiDigit = true := List.all_eq_true.2 row.digits
  simp only [integer?, wholeSign sign row, filled, all, Bool.not_true, Bool.or_self,
    Bool.false_eq_true, if_false]
  rfl

theorem integerSome {text : List Char} {n : Number} (read : integer? text = some n) :
    ∃ sign digits, IsRow digits ∧ text = wholeText sign digits ∧
      ∃ small : InSigned (signed (sign.getD false) (valueOf digits)),
        n = .integer _ small.inWord := by
  obtain ⟨sign, whole⟩ := signSplit text
  have row : IsRow (splitSign text).2 := by
    by_contra other
    rw [integer?] at read
    dsimp only at read
    split at read
    · contradiction
    · rename_i digits
      simp only [Bool.or_eq_true, List.isEmpty_iff, Bool.not_eq_true', List.all_eq_false,
        not_or, not_exists, not_and, Bool.not_eq_true, Bool.not_eq_false] at digits
      exact other ⟨digits.1, digits.2⟩
  refine ⟨sign, _, row, whole, ?_⟩
  rw [whole, integerWhole sign row] at read
  split at read
  · rename_i small
    exact ⟨small, (Option.some.inj read).symm⟩
  · contradiction

theorem integerNone {text : List Char} {c : Char} (member : c ∈ text) (mark : IsMark c) :
    integer? text = none := by
  have inside : c ∈ (splitSign text).2 := by
    unfold splitSign
    split
    · exact (List.mem_cons.1 member).resolve_left mark.2.1
    · exact (List.mem_cons.1 member).resolve_left mark.2.2
    · exact member
  have mixed : (splitSign text).2.all isAsciiDigit = false := by
    rw [List.all_eq_false]
    exact ⟨c, inside, by simp [mark.1]⟩
  simp [integer?, mixed]

end Literal

namespace Numeral
open Text Literal
open Json (IsRow Stops)
open Json.NumberText (fractionChars)

def exponentChars : Option (Char × Option Bool × List Char) → List Char
  | none => []
  | some (mark, sign, digits) => mark :: wholeText sign digits

def body (t : Numeral) : List Char := t.whole ++ (fractionChars t.fraction ++ exponentChars t.exponent)

def chars (t : Numeral) : List Char := wholeText t.sign t.body

structure IsExponent (part : Char × Option Bool × List Char) : Prop where
  mark : part.1 = 'e' ∨ part.1 = 'E'
  row : IsRow part.2.2

structure Formed (t : Numeral) : Prop where
  whole : ∀ c ∈ t.whole, isAsciiDigit c = true
  fraction : ∀ digits ∈ t.fraction, ∀ c ∈ digits, isAsciiDigit c = true
  filled : t.whole ++ t.fraction.getD [] ≠ []
  exponent : ∀ part ∈ t.exponent, IsExponent part

def negative (t : Numeral) : Bool := t.sign.getD false

def power (t : Numeral) : Int :=
  match t.exponent with
  | none => 0
  | some (_, sign, digits) => signed (sign.getD false) (valueOf digits)

def decimal (t : Numeral) : Scientific :=
  ⟨valueOf (t.whole ++ t.fraction.getD []), t.power - (t.fraction.getD []).length⟩

def integer (t : Numeral) : Int := signed t.negative (valueOf t.whole)

structure IsWord (t : Numeral) : Prop where
  unpointed : t.fraction = none
  unmarked : t.exponent = none
  small : InSigned t.integer

/- The sign of a numeral stays with a zero. -/
def Denotes (t : Numeral) (n : Number) : Prop :=
  (∃ word : t.IsWord, n = .integer t.integer word.small.inWord) ∨
    ¬ t.IsWord ∧ ∃ y, Binary64.Rounds t.decimal.value y ∧ n = .binary (signedAs t.negative y)

theorem exponentStops {exponent : Option (Char × Option Bool × List Char)}
    (formed : ∀ part ∈ exponent, IsExponent part) : Stops (exponentChars exponent) := by
  cases exponent with
  | none => exact nofun
  | some part =>
    intro c first
    rw [← Option.some.inj first]
    obtain mark | mark := (formed part rfl).mark <;> rw [mark] <;> rfl

theorem exponentRead {t : Numeral} (formed : t.Formed) :
    exponent? (exponentChars t.exponent) = some t.power := by
  unfold power
  cases found : t.exponent with
  | none => rfl
  | some part =>
    obtain ⟨mark, sign, digits⟩ := part
    obtain ⟨marked, row⟩ := formed.exponent _ found
    have all : digits.all isAsciiDigit = true := List.all_eq_true.2 row.digits
    have letter : (decide (mark = 'e') || decide (mark = 'E')) = true := by simpa using marked
    simp [exponentChars, exponent?, wholeSign sign row, all, row.filled, letter]

theorem exponentOf {text : List Char} {power : Int} (read : exponent? text = some power) :
    ∃ exponent, text = exponentChars exponent ∧ ∀ part ∈ exponent, IsExponent part := by
  cases text with
  | nil => exact ⟨none, rfl, nofun⟩
  | cons mark rest =>
    obtain ⟨sign, whole⟩ := signSplit rest
    rw [exponent?] at read
    dsimp only at read
    split at read
    · rename_i parts
      simp only [Bool.and_eq_true, Bool.or_eq_true, decide_eq_true_eq, Bool.not_eq_true',
        List.isEmpty_eq_false_iff, List.all_eq_true] at parts
      refine ⟨some (mark, sign, (splitSign rest).2), by rw [exponentChars, ← whole], ?_⟩
      intro part same
      rw [← Option.some.inj same]
      exact ⟨parts.1.1, ⟨parts.1.2, parts.2⟩⟩
    · contradiction

theorem bodyUnsigned {t : Numeral} (formed : t.Formed) :
    ∀ c ∈ t.body.head?, c ≠ '-' ∧ c ≠ '+' := by
  intro c first
  unfold body at first
  by_cases bare : t.whole = []
  · cases point : t.fraction with
    | none => exact absurd (by rw [bare, point]; rfl) formed.filled
    | some digits =>
      rw [bare, point] at first
      rw [← Option.some.inj first]
      decide
  · exact rowUnsigned ⟨bare, formed.whole⟩ _ c first

theorem binaryRead {t : Numeral} (formed : t.Formed) :
    binary? t.chars = (Binary64.ofRatio? t.decimal.ratio).map (signedAs t.negative) := by
  have sign : splitSign t.chars = (t.negative, t.body) := markSplit (bodyUnsigned formed) t.sign
  have power := exponentRead formed
  have stops := exponentStops formed.exponent
  have pointed : Stops (fractionChars t.fraction ++ exponentChars t.exponent) :=
    Json.NumberText.fractionStops stops
  have front := cutRow formed.whole pointed
  have value := Binary64.ofDecimalRatio (valueOf (t.whole ++ t.fraction.getD []))
    (t.power - (t.fraction.getD []).length)
  rw [← body] at front
  rw [binary?, Option.map_eq_bind]
  simp only [sign, front.1, front.2]
  rw [decimal, Scientific.ratio, ← value]
  have filled := formed.filled
  cases point : t.fraction with
  | none =>
    rw [point] at filled
    have whole : t.whole.isEmpty = false := by simpa using filled
    simp only [fractionChars, List.nil_append]
    cases ended : t.exponent with
    | none =>
      rw [ended] at power
      rw [exponentChars] at power ⊢
      simp [power, whole, signedAs, Function.comp_def]
    | some part =>
      obtain ⟨mark, sign, digits⟩ := part
      rw [ended] at power
      rw [exponentChars] at power ⊢
      obtain rfl | rfl := (formed.exponent _ ended).mark <;>
        simp [power, whole, signedAs, Function.comp_def]
  | some digits =>
    have back := cutRow (formed.fraction digits point) stops
    have some_ : (t.whole.isEmpty && digits.isEmpty) = false := by
      rw [point] at filled
      simpa using filled
    simp [fractionChars, back.1, back.2, power, signedAs, Function.comp_def, some_]

theorem formedOf (sign : Option Bool) {whole rest : List Char} {fraction : Option (List Char)}
    (front : ∀ c ∈ whole, isAsciiDigit c = true)
    (back : ∀ digits ∈ fraction, ∀ c ∈ digits, isAsciiDigit c = true)
    (filled : whole ++ fraction.getD [] ≠ []) {power : Int} (ended : exponent? rest = some power) :
    ∃ t : Numeral, t.Formed ∧
      wholeText sign (whole ++ (fractionChars fraction ++ rest)) = t.chars := by
  obtain ⟨exponent, rfl, formed⟩ := exponentOf ended
  exact ⟨⟨sign, whole, fraction, exponent⟩, ⟨front, back, filled, formed⟩, rfl⟩

theorem digitsTaken (text : List Char) : ∀ c ∈ text.takeWhile isAsciiDigit, isAsciiDigit c = true :=
  fun _ member => List.mem_takeWhile_imp member

theorem binaryOf {text : List Char} {y : Binary64} (read : binary? text = some y) :
    ∃ t : Numeral, t.Formed ∧ text = t.chars := by
  obtain ⟨sign, whole⟩ := signSplit text
  rw [binary?] at read
  generalize splitSign text = parts at read whole
  obtain ⟨negative, rest⟩ := parts
  have cut := List.takeWhile_append_dropWhile (p := isAsciiDigit) (l := rest)
  simp only at read whole
  split at read
  · rename_i after point
    simp only [bind] at read
    split at read
    · contradiction
    rename_i filled
    obtain ⟨power, ended, -⟩ := Option.bind_eq_some_iff.1 read
    have back : ∀ digits ∈ some (after.takeWhile isAsciiDigit), ∀ c ∈ digits,
        isAsciiDigit c = true := by
      intro digits taken
      rw [← Option.some.inj taken]
      exact digitsTaken after
    obtain ⟨t, formed, same⟩ := formedOf sign (digitsTaken rest) back (by simpa using filled) ended
    refine ⟨t, formed, ?_⟩
    rw [← same, whole, fractionChars, List.cons_append, List.takeWhile_append_dropWhile, ← point,
      cut]
  · simp only [bind] at read
    split at read
    · contradiction
    rename_i filled
    obtain ⟨power, ended, -⟩ := Option.bind_eq_some_iff.1 read
    have back : ∀ digits ∈ (none : Option (List Char)), ∀ c ∈ digits, isAsciiDigit c = true := by
      simp
    obtain ⟨t, formed, same⟩ := formedOf sign (digitsTaken rest) back (by simpa using filled) ended
    refine ⟨t, formed, ?_⟩
    rw [← same, whole, fractionChars, List.nil_append, cut]

theorem bareChars {t : Numeral} (unpointed : t.fraction = none) (unmarked : t.exponent = none) :
    t.chars = wholeText t.sign t.whole := by
  rw [chars, body, unpointed, unmarked, fractionChars, exponentChars, List.append_nil,
    List.append_nil]

theorem bareRow {t : Numeral} (formed : t.Formed) (unpointed : t.fraction = none) :
    IsRow t.whole :=
  ⟨by simpa [unpointed] using formed.filled, formed.whole⟩

theorem wordRead {t : Numeral} (formed : t.Formed) (word : t.IsWord) :
    number? t.chars = some (.integer t.integer word.small.inWord) := by
  have small : InSigned (signed (t.sign.getD false) (valueOf t.whole)) := word.small
  rw [number?, bareChars word.unpointed word.unmarked,
    integerWhole t.sign (bareRow formed word.unpointed), dif_pos small]
  rfl

theorem memberChars {t : Numeral} {c : Char} (member : c ∈ t.body) : c ∈ t.chars := by
  unfold chars wholeText
  split
  · exact member
  · exact List.mem_cons_of_mem _ member
  · exact List.mem_cons_of_mem _ member

/- A point or a mark keeps a numeral from being an integer, and so does its size. -/
theorem otherRead {t : Numeral} (formed : t.Formed) (other : ¬ t.IsWord) :
    integer? t.chars = none := by
  cases point : t.fraction with
  | some digits =>
    refine integerNone (memberChars (c := '.') ?_) ⟨rfl, by decide⟩
    simp [body, point, fractionChars]
  | none =>
    cases ended : t.exponent with
    | some part =>
      have inside : part.1 ∈ t.body := by simp [body, ended, exponentChars]
      refine integerNone (memberChars inside) ?_
      obtain mark | mark := (formed.exponent part ended).mark <;> rw [mark] <;> exact ⟨rfl, by decide⟩
    | none =>
      have large : ¬ InSigned (signed (t.sign.getD false) (valueOf t.whole)) :=
        fun small => other ⟨point, ended, small⟩
      rw [bareChars point ended, integerWhole t.sign (bareRow formed point), dif_neg large]

theorem numeralRead {t : Numeral} (formed : t.Formed) (n : Number) :
    number? t.chars = some n ↔ t.Denotes n := by
  by_cases word : t.IsWord
  · rw [wordRead formed word, Denotes, or_iff_left fun other => other.1 word, Option.some.injEq,
      exists_prop_of_true word, eq_comm]
  · rw [number?, otherRead formed word, binaryRead formed, Denotes,
      or_iff_right fun found => word found.1, and_iff_right word]
    simp only [Option.map_map, Option.map_eq_some_iff, Binary64.roundsIff t.decimal.ratioDen,
      Scientific.ratioValue, Function.comp_apply, @eq_comm _ n]

theorem numeralOf {text : List Char} {n : Number} (read : number? text = some n) :
    ∃ t : Numeral, t.Formed ∧ text = t.chars := by
  rw [number?] at read
  split at read
  · rename_i found
    obtain ⟨sign, digits, row, same, -⟩ := integerSome found
    refine ⟨⟨sign, digits, none, none⟩, ⟨row.digits, nofun, ?_, nofun⟩, ?_⟩
    · simpa using row.filled
    · rw [same, chars, body, fractionChars, exponentChars, List.append_nil, List.append_nil]
  · obtain ⟨y, found, -⟩ := Option.map_eq_some_iff.1 read
    exact binaryOf found

theorem numberIff {text : List Char} {n : Number} :
    number? text = some n ↔ ∃ t : Numeral, t.Formed ∧ text = t.chars ∧ t.Denotes n := by
  constructor
  · intro read
    obtain ⟨t, formed, rfl⟩ := numeralOf read
    exact ⟨t, formed, rfl, (numeralRead formed n).1 read⟩
  · rintro ⟨t, formed, rfl, denotes⟩
    exact (numeralRead formed n).2 denotes

end Numeral

end RequestSuite.Decimal
