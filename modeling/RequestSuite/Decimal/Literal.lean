import RequestSuite.Decimal.Number
import RequestSuite.Text.Digit

/-! Reading a whole text as a number: an integer of 64 signed bits where it is one, else the nearest
binary number. Texts with other characters, and numbers beyond the finite range, are refused. -/
namespace RequestSuite.Decimal.Literal
open Text

def signed (negative : Bool) (n : Nat) : Int := if negative then -(n : Int) else n

def integer? (text : List Char) : Option Number :=
  let (negative, digits) := splitSign text
  if digits.isEmpty || !digits.all isAsciiDigit then none
  else
    let n := signed negative (valueOf digits)
    if h : -0x8000000000000000 ≤ n ∧ n < 0x8000000000000000 then
      some (.integer n ⟨h.1, Int.lt_trans h.2 (by decide)⟩)
    else none

def exponent? : List Char → Option Int
  | [] => some 0
  | mark :: rest =>
    let (negative, digits) := splitSign rest
    if (mark = 'e' || mark = 'E') && !digits.isEmpty && digits.all isAsciiDigit then
      some (signed negative (valueOf digits))
    else none

def binary? (text : List Char) : Option Binary64 := do
  let (negative, rest) := splitSign text
  let whole := rest.takeWhile isAsciiDigit
  let rest := rest.dropWhile isAsciiDigit
  let (part, rest) := match rest with
    | '.' :: after => (after.takeWhile isAsciiDigit, after.dropWhile isAsciiDigit)
    | _ => ([], rest)
  if whole.isEmpty && part.isEmpty then none
  let exponent ← exponent? rest
  let x ← Binary64.ofDecimal? (valueOf (whole ++ part)) (exponent - part.length)
  some (if negative then x.negate else x)

def number? (text : List Char) : Option Number :=
  match integer? text with
  | some n => some n
  | none => (binary? text).map .binary

end RequestSuite.Decimal.Literal
