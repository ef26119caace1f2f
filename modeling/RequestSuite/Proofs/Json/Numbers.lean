import RequestSuite.Json.Reading
import RequestSuite.Proofs.Text.Cuts

/-! Numbers as JSON writes them, read back. The digits of a number end where something else follows,
so its parts come back from any text that does not go on with a part of a number; an integer of 64
bits then comes back itself. -/
namespace RequestSuite.Json
open Text Decimal

structure IsRow (digits : List Char) : Prop where
  filled : digits ≠ []
  digits : ∀ c ∈ digits, isAsciiDigit c = true

def Stops (rest : List Char) : Prop := ∀ c ∈ rest.head?, isAsciiDigit c = false

structure Delimits (rest : List Char) : Prop where
  stops : Stops rest
  unpointed : rest.head? ≠ some '.'
  unmarked : rest.head? ≠ some 'e' ∧ rest.head? ≠ some 'E'

theorem delimitsNil : Delimits [] := by
  constructor <;> simp [Stops]

theorem delimitsCons {c : Char} (other : isAsciiDigit c = false) (unpointed : c ≠ '.')
    (unmarked : c ≠ 'e' ∧ c ≠ 'E') (rest : List Char) : Delimits (c :: rest) := by
  constructor <;> simp [Stops, other, unpointed, unmarked]

theorem splitRow {row rest : List Char} (digits : ∀ c ∈ row, isAsciiDigit c = true)
    (stops : Stops rest) : splitDigits (row ++ rest) = (row, rest) := by
  obtain ⟨front, back⟩ := cutRow digits stops
  rw [splitDigits, front, back]

namespace NumberText

def fractionChars : Option (List Char) → List Char
  | none => []
  | some digits => '.' :: digits

def exponentChars : Option (Bool × List Char) → List Char
  | none => []
  | some (negative, digits) => 'e' :: (if negative then '-' else '+') :: digits

def spelled (text : NumberText) : List Char :=
  (if text.negative then ['-'] else []) ++
    (text.whole ++ (fractionChars text.fraction ++ exponentChars text.exponent))

structure Formed (text : NumberText) : Prop where
  whole : IsRow text.whole
  unpadded : text.whole.head? = some '0' → text.whole.length = 1
  fraction : ∀ digits ∈ text.fraction, IsRow digits
  exponent : ∀ mark ∈ text.exponent, IsRow mark.2

theorem exponentStops {exponent : Option (Bool × List Char)} {rest : List Char}
    (delimits : Delimits rest) : Stops (exponentChars exponent ++ rest) := by
  cases exponent with
  | none => exact delimits.stops
  | some mark =>
    intro c first
    rw [← Option.some.inj first]
    decide

theorem exponentBack {exponent : Option (Bool × List Char)} {rest : List Char}
    (formed : ∀ mark ∈ exponent, IsRow mark.2) (delimits : Delimits rest) :
    exponentText (exponentChars exponent ++ rest) = some (exponent, rest) := by
  cases exponent with
  | none =>
    cases rest with
    | nil => rfl
    | cons c rest =>
      have other : ¬ (c = 'e' ∨ c = 'E') := by
        rintro (rfl | rfl)
        · exact delimits.unmarked.1 rfl
        · exact delimits.unmarked.2 rfl
      simp [exponentChars, exponentText, other]
  | some mark =>
    obtain ⟨negative, digits⟩ := mark
    have row := formed (negative, digits) rfl
    have sign : splitSign ((if negative then '-' else '+') :: (digits ++ rest)) =
        (negative, digits ++ rest) := by
      cases negative <;> rfl
    simp [exponentChars, exponentText, sign, splitRow row.digits delimits.stops, row.filled]

theorem fractionStops {fraction : Option (List Char)} {rest : List Char} (stops : Stops rest) :
    Stops (fractionChars fraction ++ rest) := by
  cases fraction with
  | none => exact stops
  | some digits =>
    intro c first
    rw [← Option.some.inj first]
    decide

theorem fractionBack {fraction : Option (List Char)} {rest : List Char}
    (formed : ∀ digits ∈ fraction, IsRow digits) (stops : Stops rest)
    (unpointed : rest.head? ≠ some '.') :
    fractionText (fractionChars fraction ++ rest) = some (fraction, rest) := by
  cases fraction with
  | none =>
    rw [fractionChars, List.nil_append, fractionText]
    rintro after rfl
    exact unpointed rfl
  | some digits =>
    have row := formed digits rfl
    simp [fractionChars, fractionText, splitRow row.digits stops, row.filled]

theorem minusBack (negative : Bool) {row : List Char} (formed : IsRow row) (rest : List Char) :
    splitMinus ((if negative then ['-'] else []) ++ (row ++ rest)) = (negative, row ++ rest) := by
  cases negative with
  | true => rfl
  | false =>
    obtain ⟨filled, digits⟩ := formed
    cases row with
    | nil => contradiction
    | cons c row =>
      simp only [Bool.false_eq_true, if_false, List.nil_append, List.cons_append]
      rw [splitMinus]
      intro after same
      rw [(List.cons.inj same).1] at digits
      exact absurd (digits '-' List.mem_cons_self) (by decide)

theorem numberBack {text : NumberText} (formed : text.Formed) {rest : List Char}
    (delimits : Delimits rest) : numberText (text.spelled ++ rest) = some (text, rest) := by
  obtain ⟨negative, whole, fraction, exponent⟩ := text
  obtain ⟨row, unpadded, fractionFormed, exponentFormed⟩ := formed
  have stops : Stops (exponentChars exponent ++ rest) := exponentStops delimits
  have unpointed : (exponentChars exponent ++ rest).head? ≠ some '.' := by
    cases exponent with
    | none => exact delimits.unpointed
    | some mark => simp [exponentChars]
  have accepted : (whole.isEmpty || (whole.head? = some '0' && whole.length ≠ 1)) = false := by
    have filled : whole ≠ [] := row.filled
    simpa [filled] using unpadded
  simp only [spelled, List.append_assoc]
  rw [numberText, minusBack negative row]
  dsimp only
  rw [splitRow row.digits (fractionStops stops)]
  simp only [accepted, fractionBack fractionFormed stops unpointed,
    exponentBack exponentFormed delimits, bind, Option.bind, Bool.false_eq_true, if_false]

end NumberText

def literal (n : Number) : NumberText :=
  (numberText n.text).elim ⟨false, [], none, none⟩ Prod.fst

structure Lexical (n : Number) : Prop where
  formed : (literal n).Formed
  spelled : (literal n).spelled = n.text

theorem literalOf {n : Number} {text : NumberText} (formed : text.Formed)
    (spelled : text.spelled = n.text) : Lexical n ∧ literal n = text := by
  have back := NumberText.numberBack formed delimitsNil
  rw [List.append_nil, spelled] at back
  have same : literal n = text := by rw [literal, back, Option.elim_some]
  exact ⟨⟨same ▸ formed, same ▸ spelled⟩, same⟩

theorem digitRow (n : Nat) : IsRow (Nat.toDigits 10 n) :=
  ⟨Nat.toDigits_ne_nil, fun _ member => Nat.isDigit_of_mem_toDigits (by decide) (by decide) member⟩

theorem digitValue (n : Nat) : valueOf (Nat.toDigits 10 n) = n := Nat.ofDigitChars_ten_toDigits

theorem digitFirst {n : Nat} (positive : 0 < n) : (Nat.toDigits 10 n).head? ≠ some '0' := by
  induction n using Nat.strongRecOn with
  | _ n ih =>
    by_cases small : n < 10
    · rw [Nat.toDigits_of_lt_base small]
      have others : ∀ digit < 10, 0 < digit → [Nat.digitChar digit].head? ≠ some '0' := by decide
      exact others n small positive
    · have front := ih (n / 10) (by omega) (by omega)
      rw [Nat.toDigits_of_base_le (by decide) (Nat.le_of_not_lt small)]
      cases above : Nat.toDigits 10 (n / 10) with
      | nil => exact absurd above Nat.toDigits_ne_nil
      | cons first rest =>
        rw [above] at front
        exact front

def integerLiteral (n : Int) : NumberText :=
  ⟨n < 0, Nat.toDigits 10 n.natAbs, none, none⟩

theorem integerFormed (n : Int) : (integerLiteral n).Formed := by
  refine ⟨digitRow n.natAbs, ?_, nofun, nofun⟩
  intro zero
  have none : n.natAbs = 0 := Nat.eq_zero_of_not_pos fun positive => digitFirst positive zero
  rw [integerLiteral, none]
  rfl

theorem integerSpelled (n : Int) : (integerLiteral n).spelled = Number.integerText n := by
  by_cases negative : n < 0 <;>
    simp [integerLiteral, NumberText.spelled, NumberText.fractionChars, NumberText.exponentChars,
      Number.integerText, negative]

theorem integerLexical (n : Int) (fits : InWord n) :
    Lexical (.integer n fits) ∧ literal (.integer n fits) = integerLiteral n :=
  literalOf (integerFormed n) (integerSpelled n)

theorem integerBack (n : Int) (fits : InWord n) :
    (integerLiteral n).number? = some (.integer n fits) := by
  have value : valueOf (integerLiteral n).whole = n.natAbs := digitValue n.natAbs
  have bounds := fits
  unfold InWord at bounds
  have plain : ((integerLiteral n).fraction.isNone && (integerLiteral n).exponent.isNone) = true :=
    rfl
  simp only [NumberText.number?, value]
  rw [if_pos plain]
  by_cases negative : n < 0
  · have sign : (integerLiteral n).negative = true := decide_eq_true negative
    have size : 0 < n.natAbs ∧ n.natAbs ≤ 0x8000000000000000 := by omega
    have same : -(n.natAbs : Int) = n := by omega
    rw [if_pos sign, dif_pos size]
    simp only [same]
  · have sign : ¬ (integerLiteral n).negative = true := fun less => negative (of_decide_eq_true less)
    have size : n.natAbs < 0x10000000000000000 := by omega
    have same : (n.natAbs : Int) = n := by omega
    rw [if_neg sign, dif_pos size]
    simp only [same]

end RequestSuite.Json
