import RequestSuite.Decimal.Number
import RequestSuite.Json.Token

/-! What the leaves of a JSON text stand for. A string leaf is refused if it holds half a surrogate
pair, a number leaf if its magnitude is beyond the finite range. -/
namespace RequestSuite.Json
open Text Decimal

def hexUnit (a b c d : Char) : Nat :=
  [a, b, c, d].foldl (fun value digit => 16 * value + (hexValue? digit).getD 0) 0

def unescapeSimple (c : Char) : Char :=
  if c = 'b' then '\x08' else if c = 'f' then '\x0c' else if c = 'n' then '\n'
  else if c = 'r' then '\r' else if c = 't' then '\t' else c

def isHighHalf (unit : Nat) : Bool := 0xD800 ≤ unit && unit < 0xDC00

def isLowHalf (unit : Nat) : Bool := 0xDC00 ≤ unit && unit < 0xE000

def unescapeFrom : Option Nat → List Char → Option (List Char)
  | none, [] => some []
  | some _, [] => none
  | half, '\\' :: 'u' :: a :: b :: c :: d :: rest =>
    let unit := hexUnit a b c d
    match half with
    | some high =>
      if isLowHalf unit then
        (unescapeFrom none rest).map
          (Char.ofNat (0x10000 + (high - 0xD800) * 0x400 + (unit - 0xDC00)) :: ·)
      else none
    | none =>
      if isHighHalf unit then unescapeFrom (some unit) rest
      else if isLowHalf unit then none
      else (unescapeFrom none rest).map (Char.ofNat unit :: ·)
  | some _, _ => none
  | none, '\\' :: c :: rest => (unescapeFrom none rest).map (unescapeSimple c :: ·)
  | none, c :: rest => (unescapeFrom none rest).map (c :: ·)

def unescape? (raw : List Char) : Option String := (unescapeFrom none raw).map String.ofList

def collectLimit : Nat := 0xFFFFFFFFFFFFFFFF

def collect (value : Nat) : List Char → Nat × List Char
  | [] => (value, [])
  | c :: rest =>
    let next := 10 * value + digitValue c
    if next ≤ collectLimit then collect next rest else (value, c :: rest)

def power (exponent : Nat) : Ratio :=
  match Binary64.ofRatio? ⟨Nat.pow 10 exponent, 1⟩ with
  | some x => x.magnitude
  | none => ⟨0, 1⟩

def scaleDown (x : Binary64) (exponent : Nat) : Option Binary64 :=
  if exponent ≤ 308 then Binary64.ofRatio? (x.magnitude.div (power exponent))
  else if x.isZero then some x
  else (Binary64.ofRatio? (x.magnitude.div (power 308))).bind (scaleDown · (exponent - 308))
termination_by exponent

/-- One rounding for the collected digits and one for the power of ten. -/
def scale (digits : Nat) (exponent : Int) : Option Binary64 := do
  let x ← Binary64.ofRatio? ⟨digits, 1⟩
  if exponent < 0 then scaleDown x exponent.natAbs
  else if exponent ≤ 308 then Binary64.ofRatio? (x.magnitude.mul (power exponent.toNat))
  else if x.isZero then some x
  else none

def exponentLimit : Nat := 0x7FFFFFFF

def scaleBy (digits : Nat) (shift : Int) : Option (Bool × List Char) → Option Binary64
  | none => scale digits shift
  | some (negative, exponent) =>
    let size := valueOf exponent
    if size > exponentLimit then
      if digits ≠ 0 && !negative then none else some Binary64.zero
    else scale digits (if negative then shift - size else shift + size)

namespace NumberText

def magnitude? (text : NumberText) : Option Binary64 :=
  let (digits, left) := collect 0 text.whole
  match text.fraction with
  | none => scaleBy digits left.length text.exponent
  | some fraction =>
    let (digits, dropped) := collect digits fraction
    scaleBy digits (left.length - (fraction.length - dropped.length : Nat)) text.exponent

def binary? (text : NumberText) : Option Number :=
  text.magnitude?.map fun x => .binary (if text.negative then x.negate else x)

/-- A literal without fraction and exponent that fits in 64 bits is an integer, except for a
negative zero; every other literal is a binary number. -/
def number? (text : NumberText) : Option Number :=
  if text.fraction.isNone && text.exponent.isNone then
    let size := valueOf text.whole
    if text.negative then
      if h : 0 < size ∧ size ≤ 0x8000000000000000 then
        some (.integer (-(size : Int)) (by unfold InWord; omega))
      else text.binary?
    else if h : size < 0x10000000000000000 then some (.integer size (by unfold InWord; omega))
    else text.binary?
  else text.binary?

end NumberText

end RequestSuite.Json
