import RequestSuite.Text.Joining
import RequestSuite.Text.Lines
import RequestSuite.Url.CaseFolding
import RequestSuite.Url.Composition
import RequestSuite.Url.Direction
import RequestSuite.Url.Punycode

/-! Domain names in ASCII. The text is folded and composed as a whole; labels with other characters
are then checked and written in their coded form. Empty labels and long ones in ASCII are let
through. -/
namespace RequestSuite.Url.Domain
open Text

def isNonJoiner (c : Char) : Bool := c.toNat = 0x200C

def isJoiner (c : Char) : Bool := c.toNat = 0x200C || c.toNat = 0x200D

def afterVirama (before : List Char) : Bool :=
  match before.head? with
  | some last => markClass last.toNat == 9
  | none => false

def nextJoining (text : List Char) : Joining :=
  match text.dropWhile fun c => Joining.ofChar c = .transparent with
  | c :: _ => Joining.ofChar c
  | [] => .none

def partsLetters (before after : List Char) : Bool :=
  (nextJoining before).joinsNext && (nextJoining after).joinsPrevious

/-- A joiner needs a virama before it; a non-joiner may also part two letters. The text before comes
with its last character first. -/
def joinersPlaced : (before : List Char) → List Char → Bool
  | _, [] => true
  | before, c :: rest =>
    (!isJoiner c || afterVirama before || (isNonJoiner c && partsLetters before rest)) &&
      joinersPlaced (c :: before) rest

def validLabel (label : List Char) : Bool :=
  joinersPlaced [] label &&
    (match label.head? with
      | some c => !isMark c
      | none => true)

def isAscii (label : List Char) : Bool := label.all fun c => c.toNat < 128

def codePrefix : List Char := "xn--".toList

def mostCharacters : Nat := 1000

def mostCoded : Nat := 2000

structure Label where
  plain : List Char
  written : List Char

def isSettled (text : List Char) : Bool :=
  (text.all fun c => foldChar? c == some [c]) && composedForm text == text

def Label.ofCode? (label code : List Char) : Option Label := do
  if !isAscii code || code.isEmpty || code.getLast? = some '-' || mostCoded < code.length then none
  let plain ← Punycode.decode? code
  if plain.length ≤ mostCharacters && isSettled plain && validLabel plain then some ⟨plain, label⟩
  else none

def Label.ofText? (label : List Char) : Option Label :=
  match codePrefix.isPrefixOf? label with
  | some code => Label.ofCode? label code
  | none =>
    if isAscii label then some ⟨label, label⟩
    else if validLabel label && label.length ≤ mostCharacters then
      some ⟨label, codePrefix ++ Punycode.encode label⟩
    else none

def folded? (text : List Char) : Option (List Char) := do
  let folded ← text.mapM foldChar?
  if isAscii folded.flatten then some folded.flatten else some (composedForm folded.flatten)

def directionsKept (labels : List Label) : Bool :=
  !(labels.any fun label => Direction.turns label.plain) ||
    labels.all fun label => Direction.keeps label.plain

def ofText? (text : List Char) : Option (List Char) := do
  let folded ← folded? text
  let labels ← (splitAt '.' folded).mapM Label.ofText?
  if directionsKept labels then some (joinWith ['.'] (labels.map (·.written))) else none

end RequestSuite.Url.Domain
