import RequestSuite.Text.Digit
import RequestSuite.Text.Lines
import RequestSuite.Json.Token

/-! Numeric hosts: four-part addresses, whose parts may be octal or hexadecimal and may be merged,
and eight-part addresses in brackets. -/
namespace RequestSuite.Url.Address
open Text

def part? (part : List Char) : Option Nat :=
  let hex := fun (digits : List Char) =>
    if digits.all Json.isHex then
      some (digits.foldl (fun value c => 16 * value + (Json.hexValue? c).getD 0) 0)
    else none
  match part with
  | [] => none
  | '0' :: 'x' :: digits => hex digits
  | '0' :: 'X' :: digits => hex digits
  | '0' :: first :: rest =>
    if (first :: rest).all fun c => '0' ≤ c && c ≤ '7' then
      some ((first :: rest).foldl (fun value c => 8 * value + digitValue c) 0)
    else none
  | digits => if digits.all isAsciiDigit then some (valueOf digits) else none

def parts (host : List Char) : List (List Char) :=
  let parts := splitAt '.' host
  if parts.length > 1 && parts.getLast? = some [] then parts.dropLast else parts

def endsInNumber (host : List Char) : Bool :=
  match (parts host).getLast? with
  | some last => !last.isEmpty && (last.all isAsciiDigit || (part? last).isSome)
  | none => false

/-- All parts but the last fill one byte each, the last fills the bytes that are left. -/
def four? (host : List Char) : Option Nat := do
  let numbers ← (parts host).mapM part?
  let last ← numbers.getLast?
  let front := numbers.dropLast
  if front.length > 3 || front.any (255 < ·) || Nat.pow 256 (4 - front.length) ≤ last then none
  else some (front.zipIdx.foldr (fun (n, i) total => n * Nat.pow 256 (3 - i) + total) last)

def fourText (address : Nat) : List Char :=
  joinWith ['.'] ([3, 2, 1, 0].map fun i => ofNat (address / Nat.pow 256 i % 256))

def byte? (digits : List Char) : Option Nat :=
  if digits.head? = some '0' && digits.length > 1 then none else boundedNat? 255 digits

def tail? (text : List Char) : Option (List Nat) := do
  let bytes ← (splitAt '.' text).mapM byte?
  match bytes with
  | [a, b, c, d] => some [a * 256 + b, c * 256 + d]
  | _ => none

def piece? (digits : List Char) : Option Nat :=
  if digits.isEmpty || digits.length > 4 || !digits.all Json.isHex then none
  else some (digits.foldl (fun value c => 16 * value + (Json.hexValue? c).getD 0) 0)

def pieces? : List (List Char) → Option (List Nat)
  | [] => some []
  | [last] => if last.contains '.' then tail? last else (piece? last).map ([·])
  | first :: rest => do
    let piece ← piece? first
    let pieces ← pieces? rest
    some (piece :: pieces)

def side? (text : List Char) : Option (List Nat) :=
  if text.isEmpty then some [] else pieces? (splitAt ':' text)

def splitGap : List Char → Option (List Char × List Char)
  | [] => none
  | ':' :: ':' :: rest => some ([], rest)
  | c :: rest => (splitGap rest).map fun (before, after) => (c :: before, after)

def eight? (text : List Char) : Option (List Nat) :=
  match splitGap text with
  | some (before, after) => do
    if before.contains '.' then none
    let front ← side? before
    let back ← side? after
    if front.length + back.length > 7 then none
    else some (front ++ List.replicate (8 - front.length - back.length) 0 ++ back)
  | none => do
    let pieces ← pieces? (splitAt ':' text)
    if pieces.length = 8 then some pieces else none

def longestZeros (pieces : List Nat) : Nat × Nat :=
  (List.range 8).foldl (fun (best : Nat × Nat) start =>
    let length := ((pieces.drop start).takeWhile (· = 0)).length
    if length > best.2 then (start, length) else best) (0, 0)

def pieceText (n : Nat) : List Char := Nat.toDigits 16 n

def eightText (pieces : List Nat) : List Char :=
  let (start, length) := longestZeros pieces
  let write := fun (part : List Nat) => joinWith [':'] (part.map pieceText)
  if length < 2 then write pieces
  else write (pieces.take start) ++ ':' :: ':' :: write (pieces.drop (start + length))

end RequestSuite.Url.Address
