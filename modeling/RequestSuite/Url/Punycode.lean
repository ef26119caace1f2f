/-! Bootstring coding of labels with base 36: the ASCII characters first, then the others by growing
code point, each as a distance that is written in digits of varying range. -/
namespace RequestSuite.Url.Punycode

def digitChar (d : Nat) : Char :=
  if d < 26 then Char.ofNat (97 + d) else Char.ofNat (22 + d)

def digitValue? (c : Char) : Option Nat :=
  if 'a' ≤ c && c ≤ 'z' then some (c.toNat - 97)
  else if 'A' ≤ c && c ≤ 'Z' then some (c.toNat - 65)
  else if '0' ≤ c && c ≤ '9' then some (c.toNat - 22)
  else none

def threshold (k bias : Nat) : Nat :=
  if k ≤ bias then 1 else if bias + 26 ≤ k then 26 else k - bias

def shrink (delta k : Nat) : Nat × Nat :=
  if 455 < delta then shrink (delta / 35) (k + 36) else (delta, k)
termination_by delta
decreasing_by omega

def adapt (delta count : Nat) (first : Bool) : Nat :=
  let halved := if first then delta / 700 else delta / 2
  let (left, k) := shrink (halved + halved / count) 0
  k + 36 * left / (left + 38)

def distance (q k bias : Nat) : List Char :=
  let t := threshold k bias
  if h : t ≤ q ∧ 1 ≤ t ∧ t < 36 then
    digitChar (t + (q - t) % (36 - t)) :: distance ((q - t) / (36 - t)) (k + 36) bias
  else [digitChar q]
termination_by q
decreasing_by
  have : (q - threshold k bias) / (36 - threshold k bias) ≤ q - threshold k bias :=
    Nat.div_le_self _ _
  omega

structure Encoder where
  delta : Nat
  bias : Nat
  handled : Nat
  basic : Nat
  output : List (List Char)

def encodeStep (point : Nat) (state : Encoder) (c : Nat) : Encoder :=
  if c < point then { state with delta := state.delta + 1 }
  else if c = point then
    { state with
      output := distance state.delta 36 state.bias :: state.output
      bias := adapt state.delta (state.handled + 1) (state.handled == state.basic)
      delta := 0
      handled := state.handled + 1 }
  else state

def laterPoints (label : List Nat) : List Nat :=
  let points := (label.filter (128 ≤ ·)).mergeSort
  points.foldr (fun n found => if found.head? = some n then found else n :: found) []

def encodePoints (label : List Nat) (next : Nat) (state : Encoder) : List Nat → Encoder
  | [] => state
  | point :: rest =>
    let raised := { state with delta := state.delta + (point - next) * (state.handled + 1) }
    let passed := label.foldl (encodeStep point) raised
    encodePoints label (point + 1) { passed with delta := passed.delta + 1 } rest

def encode (label : List Char) : List Char :=
  let basic := label.filter fun c => c.toNat < 128
  let start := if basic.isEmpty then [] else basic ++ ['-']
  let points := label.map Char.toNat
  let last := encodePoints points 128 ⟨0, 72, basic.length, basic.length, [start]⟩
    (laterPoints points)
  last.output.reverse.flatten

def bound : Nat := 0x100000000

def readDistance (value weight k bias : Nat) : List Char → Option (Nat × List Char)
  | [] => none
  | c :: rest => do
    let digit ← digitValue? c
    let value := value + digit * weight
    let t := threshold k bias
    if bound ≤ value then none
    else if digit < t then some (value, rest)
    else if bound ≤ weight * (36 - t) then none
    else readDistance value (weight * (36 - t)) (k + 36) bias rest

def insertAt (place n : Nat) (text : List Nat) : List Nat :=
  text.take place ++ n :: text.drop place

structure Decoder where
  point : Nat
  place : Nat
  bias : Nat
  text : List Nat
  first : Bool

def Decoder.insert? (state : Decoder) (total : Nat) : Option Decoder :=
  let count := state.text.length + 1
  let point := state.point + total / count
  if 0x10FFFF < point || (0xD800 ≤ point && point < 0xE000) then none
  else
    some ⟨point, total % count + 1, adapt (total - state.place) count state.first,
      insertAt (total % count) point state.text, false⟩

def decodeFrom : (fuel : Nat) → Decoder → List Char → Option (List Nat)
  | _, state, [] => some state.text
  | 0, _, _ => none
  | fuel + 1, state, input => do
    let (total, rest) ← readDistance state.place 1 36 state.bias input
    let next ← state.insert? total
    decodeFrom fuel next rest

/-- Splits at the last hyphen. Without one, or with one at the start only, there are no basic
characters; a hyphen at the start is then read as a digit, which it is not. -/
def splitBasic (label : List Char) : List Char × List Char :=
  match label.reverse.dropWhile (· ≠ '-') with
  | [] | [_] => ([], label)
  | _ :: before => (before.reverse, (label.reverse.takeWhile (· ≠ '-')).reverse)

def decode? (label : List Char) : Option (List Char) := do
  let (basic, coded) := splitBasic label
  if basic.any fun c => 128 ≤ c.toNat then none
  let points ← decodeFrom coded.length ⟨128, 0, 72, basic.map Char.toNat, true⟩ coded
  some (points.map Char.ofNat)

end RequestSuite.Url.Punycode
