import RequestSuite.Decimal.Binary64

/-! The shortest decimal that reads back as a given binary number: the fewest digits first, and of
two with as few digits the nearer one. -/
namespace RequestSuite.Decimal

structure Scientific where
  digits : Nat
  exponent : Int
  deriving DecidableEq, Repr

namespace Scientific

def ratio (x : Scientific) : Ratio := Ratio.ofScaled 10 x.digits x.exponent

def readsAs (x : Scientific) (value : Binary64) : Bool :=
  match Binary64.ofRatio? x.ratio with
  | some read => read.significand == value.significand && read.exponent == value.exponent
  | none => false

def neighbours (value : Ratio) (exponent : Int) : List Scientific :=
  let scaled := value.div (Ratio.ofScaled 10 1 exponent)
  let low := scaled.num / scaled.den
  let near := scaled.nearest
  if near = low then [⟨low, exponent⟩, ⟨low + 1, exponent⟩]
  else [⟨low + 1, exponent⟩, ⟨low, exponent⟩]

def search (value : Binary64) (top : Int) : (used count : Nat) → Scientific
  | _, 0 => ⟨value.significand, 0⟩
  | used, count + 1 =>
    match (neighbours value.magnitude (top - used)).find? (·.readsAs value) with
    | some found => found
    | none => search value top (used + 1) count

def dropZeros (digits : Nat) (exponent : Int) : Nat → Scientific
  | 0 => ⟨digits, exponent⟩
  | fuel + 1 =>
    if digits % 10 = 0 && digits != 0 then dropZeros (digits / 10) (exponent + 1) fuel
    else ⟨digits, exponent⟩

/-- Seventeen digits always suffice; a neighbour may be a power of ten, which needs fewer. -/
def ofBinary (value : Binary64) : Scientific :=
  if value.isZero then ⟨0, 0⟩
  else
    let found := search value value.magnitude.log10 0 17
    dropZeros found.digits found.exponent 18

end Scientific

end RequestSuite.Decimal
