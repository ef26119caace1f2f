import RequestSuite.Decimal.Shortest

/-! Numbers as data formats carry them: an integer of 64 bits, signed or not, or a binary number. -/
namespace RequestSuite.Decimal

def InWord (n : Int) : Prop := -0x8000000000000000 ≤ n ∧ n < 0x10000000000000000

instance (n : Int) : Decidable (InWord n) := by unfold InWord; infer_instance

inductive Number where
  | integer (n : Int) (fits : InWord n)
  | binary (x : Binary64)
  deriving DecidableEq, Repr

/-- How a binary number is written: exponents from `least` to `most` positionally and with a
fraction, all others with a mark and a signed exponent. -/
structure BinaryFormat where
  least : Int
  most : Int
  mark : List Char

namespace Number

def ofNat? (n : Nat) : Option Number :=
  if h : InWord n then some (.integer n h) else none

def format : BinaryFormat := ⟨-5, 15, ['e']⟩

def integerText (n : Int) : List Char :=
  if n < 0 then '-' :: Nat.toDigits 10 n.natAbs else Nat.toDigits 10 n.natAbs

def positional (digits : List Char) (whole : Int) : List Char :=
  if whole ≤ 0 then '0' :: '.' :: (List.replicate (-whole).toNat '0' ++ digits)
  else if digits.length ≤ whole.toNat then
    digits ++ List.replicate (whole.toNat - digits.length) '0' ++ ['.', '0']
  else digits.take whole.toNat ++ '.' :: digits.drop whole.toNat

def scientific (format : BinaryFormat) (digits : List Char) (exponent : Int) : List Char :=
  let point := if digits.length ≤ 1 then digits else digits.take 1 ++ '.' :: digits.drop 1
  let sign := if exponent < 0 then '-' else '+'
  point ++ format.mark ++ sign :: Nat.toDigits 10 exponent.natAbs

def magnitudeText (format : BinaryFormat) (x : Binary64) : List Char :=
  if x.isZero then ['0', '.', '0']
  else
    let short := Scientific.ofBinary x
    let digits := Nat.toDigits 10 short.digits
    let exponent := short.exponent + digits.length - 1
    if format.least ≤ exponent && exponent ≤ format.most then positional digits (exponent + 1)
    else scientific format digits exponent

def binaryText (x : Binary64) : List Char :=
  if x.negative then '-' :: magnitudeText format x else magnitudeText format x

def text : Number → List Char
  | integer n _ => integerText n
  | binary x => binaryText x

end Number

end RequestSuite.Decimal
