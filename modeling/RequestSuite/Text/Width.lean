import RequestSuite.Text.Columns
import RequestSuite.Text.Emoji
import RequestSuite.Text.Joining

/-! The width of a text in terminal columns. Characters that are drawn as one, such as the parts of
an emoji or of a ligature, count once; which they are is read from the end of the text. -/
namespace RequestSuite.Text
open Emoji

inductive Ligature where
  | lamed
  | ya
  | vowelYa
  | tifinagh
  | tifinaghJoined
  | lisuTone
  | turkic
  | subscript
  deriving DecidableEq, Repr

inductive Shape where
  | plain
  | lineFeed
  | skinTone
  | indicator
  | flag
  | emoji
  | joiner
  | keycapJoiner
  | joinedIndicator
  | joinedFlag
  | joinedIndicators
  | tagEnd
  | tagLetters (count : Nat)
  | tagDigits (count : Nat)
  | vowelE
  | vowelAi
  | alef
  | ligature (half : Ligature) (joined : Bool)
  deriving DecidableEq, Repr

structure Following where
  shape : Shape
  emoji : Bool
  text : Bool
  quote : Bool
  deriving DecidableEq, Repr

namespace Shape

def isLigature : Shape → Bool
  | alef => true
  | ligature _ _ => true
  | _ => false

def isJoiner (shape : Shape) : Bool := shape = joiner || shape = keycapJoiner

def alone (shape : Shape) : Following := ⟨shape, false, false, false⟩

end Shape

namespace Following

def plain : Following := Shape.plain.alone

def select (following : Following) (kept : Bool) (mark : Following → Following) : Following :=
  mark (if kept then following else plain)

def afterEmojiSelector (following : Following) : Following :=
  let shape := following.shape
  following.select (shape.isLigature || shape.isJoiner) ({ · with emoji := true })

def afterTextSelector (following : Following) : Following :=
  following.select following.shape.isLigature ({ · with text := true })

def afterQuoteSelector (following : Following) : Following :=
  following.select following.shape.isLigature ({ · with quote := true })

end Following

def isTifinagh (n : Nat) : Bool := (0x2D31 ≤ n && n ≤ 0x2D65) || n = 0x2D6F

def isAlef (n : Nat) : Bool :=
  [(0x622, 0x623), (0x625, 0x625), (0x627, 0x627), (0x671, 0x673), (0x675, 0x675), (0x773, 0x774),
    (0x870, 0x882)].any fun (first, last) => first ≤ n && n ≤ last

def isLam (n : Nat) : Bool := [0x644, 0x6B5, 0x6B6, 0x6B7, 0x6B8, 0x76A, 0x8A6, 0x8C7].contains n

def isSubscript (n : Nat) : Bool :=
  [(0x1780, 0x1782), (0x1784, 0x1787), (0x1789, 0x178C), (0x178E, 0x1793), (0x1795, 0x1798),
    (0x179B, 0x179D), (0x17A0, 0x17A0), (0x17A2, 0x17A2), (0x17A7, 0x17A7), (0x17AB, 0x17AC),
    (0x17AF, 0x17AF)].any fun (first, last) => first ≤ n && n ≤ last

def isSeenThrough (n : Nat) : Bool :=
  [(0x34F, 0x34F), (0x17B4, 0x17B5), (0x180B, 0x180D), (0x180F, 0x180F), (0xFE00, 0xFE0F),
    (0xE0100, 0xE01EF)].any fun (first, last) => first ≤ n && n ≤ last

def isTransparent (n : Nat) : Bool :=
  Joining.ofChar (Char.ofNat n) = .transparent && columns n = 0

def isQuotation (n : Nat) : Bool := [0x2018, 0x2019, 0x201C, 0x201D].contains n

def shapeOf (n : Nat) : Shape :=
  if n = 0x0A then .lineFeed
  else if n = 0x5DC then .ligature .lamed false
  else if isAlef n then .alef
  else if isSubscript n then .ligature .subscript true
  else if n = 0x1A10 then .ligature .ya false
  else if isTifinagh n then .ligature .tifinagh false
  else if n = 0xA4FC || n = 0xA4FD then .ligature .lisuTone true
  else if n = 0x10C03 then .ligature .turkic false
  else if n = 0x16D67 then .vowelE
  else if n = 0x16D68 then .vowelAi
  else if isIndicator n then .indicator
  else if isSkinTone n then .skinTone
  else if presented.has n then .emoji
  else .plain

def standing (n : Nat) : Int × Following := (columns n, (shapeOf n).alone)

def beforeJoiner? (n : Nat) : Option (Int × Shape) :=
  if n = 0x20E3 then some (0, .keycapJoiner)
  else if isIndicator n then some (1, .joinedIndicator)
  else if isSkinTone n then some (0, .skinTone)
  else if n = 0xE007F then some (0, .tagEnd)
  else if presented.has n then some (0, .emoji)
  else none

def beforeTags? (letters digits n : Nat) : Option (Int × Shape) :=
  if isTagLetter n && digits = 0 && letters < 6 then some (0, .tagLetters (letters + 1))
  else if isTagDigit n && letters < 6 && digits < 3 then some (0, .tagDigits (digits + 1))
  else if n = 0x1F3F4 && (digits = 3 || (digits = 0 && 3 ≤ letters)) then some (0, .emoji)
  else none

def beforeLigature? (half : Ligature) (joined : Bool) (n : Nat) : Option (Int × Shape) :=
  match half with
  | .lamed => if joined && n = 0x5D0 then some (0, .plain) else none
  | .ya => if joined && n = 0x1A17 then some (0, .ligature .vowelYa true) else none
  | .vowelYa => if n = 0x1A15 then some (0, .plain) else none
  | .tifinagh =>
    if n = 0x2D7F then some (1, .ligature .tifinaghJoined true)
    else if joined && isTifinagh n then some (0, .plain)
    else none
  | .tifinaghJoined => if isTifinagh n then some (-1, .plain) else none
  | .lisuTone => if 0xA4F8 ≤ n && n ≤ 0xA4FB then some (0, .plain) else none
  | .turkic => if joined && n = 0x10C32 then some (0, .plain) else none
  | .subscript => if n = 0x17D2 then some (-1, .plain) else none

/-- The columns that a character adds before a shape that it forms one sign with, and the shape of
the two together. -/
def combine? : Shape → Nat → Option (Int × Shape)
  | .plain, _ | .lineFeed, _ => none
  | .skinTone, n =>
    if toned.has n then some (0, .emoji) else if n = 0x200D then some (0, .joiner) else none
  | .indicator, n => if isIndicator n then some (1, .flag) else none
  | .flag, n =>
    if isIndicator n then some (1, .flag) else if n = 0x200D then some (0, .joiner) else none
  | .emoji, n => if n = 0x200D then some (0, .joiner) else none
  | .joiner, n => beforeJoiner? n
  | .keycapJoiner, _ => none
  | .joinedIndicator, n => if isIndicator n then some (-1, .joinedFlag) else none
  | .joinedFlag, n =>
    if isIndicator n then some (3, .joinedIndicators)
    else if n = 0x200D then some (0, .joiner)
    else none
  | .joinedIndicators, n =>
    if isIndicator n then some (-1, .joinedFlag)
    else if n = 0x200D then some (0, .joiner)
    else none
  | .tagEnd, n => beforeTags? 0 0 n
  | .tagLetters count, n => beforeTags? count 0 n
  | .tagDigits count, n => beforeTags? 0 count n
  | .vowelE, n =>
    if n = 0x16D63 || n = 0x16D69 then some (0, .plain)
    else if n = 0x16D67 then some (0, .vowelAi)
    else if n = 0x16D68 then some (1, .vowelE)
    else none
  | .vowelAi, n => if n = 0x16D63 then some (0, .plain) else none
  | .alef, n =>
    if isLam n then some (0, .plain) else if isTransparent n then some (0, .alef) else none
  | .ligature half joined, n => beforeLigature? half joined n

def combined (following : Following) (n : Nat) : Int × Following :=
  if following.quote then standing n
  else match combine? following.shape n with
    | some (width, shape) => (width, shape.alone)
    | none => standing n

def inLigature (following : Following) (n : Nat) : Int × Following :=
  match following.shape with
  | .ligature half _ =>
    if n = 0x200D then (0, { following with shape := .ligature half true })
    else if isSeenThrough n then (0, following)
    else combined following n
  | _ => combined following n

def beyondControls (following : Following) (n : Nat) : Int × Following :=
  if n = 0xFE0F then (0, following.afterEmojiSelector)
  else if n = 0xFE0E then (0, following.afterTextSelector)
  else if n = 0xFE01 then (0, following.afterQuoteSelector)
  else if following.text then
    if texts.has n then (1, .plain) else inLigature { following with text := false } n
  else if following.quote then
    if isQuotation n then (2, .plain) else inLigature { following with quote := false } n
  else inLigature following n

def withoutSelector (following : Following) (n : Nat) : Int × Following :=
  if 0xA0 < n then beyondControls following n
  else if n = 0x0A then (1, Shape.lineFeed.alone)
  else if n = 0x0D && following.shape = .lineFeed then (0, .plain)
  else (1, .plain)

def takeColumns (following : Following) (n : Nat) : Int × Following :=
  if following.emoji then
    if bases.has n then (if following.shape.isJoiner then 0 else 2, Shape.emoji.alone)
    else if following.shape.isLigature then withoutSelector { following with emoji := false } n
    else withoutSelector .plain n
  else withoutSelector following n

def columnsFrom (text : List Char) : Int × Following :=
  text.foldr (fun c (total, following) =>
    let (width, before) := takeColumns following c.toNat
    (total + width, before)) (0, .plain)

def width (text : List Char) : Nat := (columnsFrom text).1.toNat

end RequestSuite.Text
