/-! Finite binary numbers of 53 significant bits, kept exactly: a sign and
significand · 2 ^ exponent. Every operation computes in natural numbers and rounds once, to the
nearest and to an even significand in a tie. -/
namespace RequestSuite.Decimal

/-- Either the significand has 53 bits, or the exponent is the least, -1074. -/
structure Binary64 where
  negative : Bool
  significand : Nat
  exponent : Int
  deriving DecidableEq, Repr

structure Ratio where
  num : Nat
  den : Nat
  deriving DecidableEq, Repr

namespace Ratio

def ofScaled (base significand : Nat) (exponent : Int) : Ratio :=
  if exponent < 0 then ⟨significand, Nat.pow base (-exponent).toNat⟩
  else ⟨significand * Nat.pow base exponent.toNat, 1⟩

def mul (x y : Ratio) : Ratio := ⟨x.num * y.num, x.den * y.den⟩

def div (x y : Ratio) : Ratio := ⟨x.num * y.den, x.den * y.num⟩

def le (x y : Ratio) : Bool := x.num * y.den ≤ y.num * x.den

def log2 (x : Ratio) : Int :=
  let guess : Int := (x.num.log2 : Int) - x.den.log2
  if (ofScaled 2 1 guess).le x then guess else guess - 1

def log10 (x : Ratio) : Int :=
  let guess : Int := (x.log2 * 30103) / 100000
  if (ofScaled 10 1 (guess + 1)).le x then guess + 1
  else if (ofScaled 10 1 guess).le x then guess
  else guess - 1

def nearest (x : Ratio) : Nat :=
  let whole := x.num / x.den
  let left := 2 * (x.num % x.den)
  if left > x.den || (left == x.den && whole % 2 == 1) then whole + 1 else whole

end Ratio

namespace Binary64

def zero : Binary64 := ⟨false, 0, -1074⟩

def isZero (x : Binary64) : Bool := x.significand == 0

def negate (x : Binary64) : Binary64 := { x with negative := !x.negative }

def magnitude (x : Binary64) : Ratio := Ratio.ofScaled 2 x.significand x.exponent

def ofRatio? (x : Ratio) : Option Binary64 :=
  if x.num = 0 then some zero
  else
    let exponent := max (x.log2 - 52) (-1074)
    let rounded := (x.div (Ratio.ofScaled 2 1 exponent)).nearest
    let (significand, exponent) :=
      if rounded = 0x20000000000000 then (0x10000000000000, exponent + 1) else (rounded, exponent)
    if exponent > 971 then none else some ⟨false, significand, exponent⟩

/-- The nearest finite number to `digits · 10 ^ exponent`. Far beyond both ends of the range the
power is not computed: the answer is known from the number of digits. -/
def ofDecimal? (digits : Nat) (exponent : Int) : Option Binary64 :=
  if digits = 0 then some zero
  else
    let top := exponent + (Nat.toDigits 10 digits).length
    if top > 400 then none
    else if top < -400 then some zero
    else ofRatio? (Ratio.ofScaled 10 digits exponent)

end Binary64

end RequestSuite.Decimal
