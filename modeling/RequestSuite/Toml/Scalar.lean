import RequestSuite.Decimal.Literal
import RequestSuite.Json.Token
import RequestSuite.Text.Lines

/-! Scalars of a configuration file: texts in four kinds of quotes, numbers, dates with times. -/
namespace RequestSuite.Toml
open Text

inductive Scalar where
  | text (s : String)
  | bool (b : Bool)
  | integer (digits : List Char)
  | float (digits : List Char)
  | date (text : List Char)
  deriving DecidableEq, Repr

def isPlain (c : Char) : Bool := c = '\t' || (0x20 ≤ c.toNat && c.toNat ≠ 0x7F)

def scalarOf? (digits : List Char) : Option Char :=
  if digits.all Json.isHex then
    let n := digits.foldl (fun value c => 16 * value + (Json.hexValue? c).getD 0) 0
    if n.isValidChar then some (Char.ofNat n) else none
  else none

def escaped : List Char → Option (Char × List Char)
  | 'b' :: rest => some ('\x08', rest)
  | 't' :: rest => some ('\t', rest)
  | 'n' :: rest => some ('\n', rest)
  | 'f' :: rest => some ('\x0c', rest)
  | 'r' :: rest => some ('\r', rest)
  | 'e' :: rest => some ('\x1b', rest)
  | '"' :: rest => some ('"', rest)
  | '\\' :: rest => some ('\\', rest)
  | 'x' :: a :: b :: rest => (scalarOf? [a, b]).map (·, rest)
  | 'u' :: a :: b :: c :: d :: rest => (scalarOf? [a, b, c, d]).map (·, rest)
  | 'U' :: a :: b :: c :: d :: e :: f :: g :: h :: rest =>
    (scalarOf? [a, b, c, d, e, f, g, h]).map (·, rest)
  | _ => none

abbrev Read := Option (List Char × List Char)

def push (c : Char) (read : Read) : Read := read.map fun (text, rest) => (c :: text, rest)

def literalBody : List Char → Read
  | [] => none
  | '\x27' :: rest => some ([], rest)
  | c :: rest => if isPlain c then push c (literalBody rest) else none

def basicBody : (fuel : Nat) → List Char → Read
  | 0, _ => none
  | _, [] => none
  | _, '"' :: rest => some ([], rest)
  | fuel + 1, '\\' :: rest => do
    let (c, rest) ← escaped rest
    push c (basicBody fuel rest)
  | fuel + 1, c :: rest => if isPlain c then push c (basicBody fuel rest) else none

def closing (quote : Char) (text : List Char) : Read :=
  let count := (text.takeWhile (· = quote)).length
  if count < 3 then none
  else
    let extra := min (count - 3) 2
    some (List.replicate extra quote, text.drop (extra + 3))

def brokenLine : List Char → Read
  | '\n' :: rest => some (['\n'], rest)
  | '\r' :: '\n' :: rest => some (['\r', '\n'], rest)
  | _ => none

def lineBreak (text : List Char) : Option (List Char) := (brokenLine text).map (·.2)

def dropBlankLines : List Char → List Char
  | ' ' :: rest => dropBlankLines rest
  | '\t' :: rest => dropBlankLines rest
  | '\n' :: rest => dropBlankLines rest
  | '\r' :: '\n' :: rest => dropBlankLines rest
  | text => text

def continuation (text : List Char) : Option (List Char) :=
  (lineBreak (text.dropWhile fun c => c = ' ' || c = '\t')).map dropBlankLines

def longBody (quote : Char) : (fuel : Nat) → List Char → Read
  | 0, _ => none
  | _, [] => none
  | fuel + 1, c :: rest =>
    match closing quote (c :: rest), brokenLine (c :: rest) with
    | some found, _ => some found
    | none, some (line, rest) =>
      (longBody quote fuel rest).map fun (text, rest) => (line ++ text, rest)
    | none, none =>
      if c = '\\' && quote = '"' then
        match continuation rest with
        | some rest => longBody quote fuel rest
        | none => do
          let (c, rest) ← escaped rest
          push c (longBody quote fuel rest)
      else if isPlain c then push c (longBody quote fuel rest)
      else none

def long (quote : Char) (text : List Char) : Read :=
  longBody quote (text.length + 1) ((lineBreak text).getD text)

def shortText : List Char → Read
  | '"' :: rest => basicBody (rest.length + 1) rest
  | '\x27' :: rest => literalBody rest
  | _ => none

def quotedText : List Char → Read
  | '"' :: '"' :: '"' :: rest => long '"' rest
  | '\x27' :: '\x27' :: '\x27' :: rest => long '\x27' rest
  | text => shortText text

def digitRow (isDigit : Char → Bool) (text : List Char) : Bool :=
  (splitAt '_' text).all fun part => !part.isEmpty && part.all isDigit

def dropSign : List Char → List Char
  | '+' :: rest => rest
  | '-' :: rest => rest
  | text => text

def isDecimalRow (text : List Char) : Bool :=
  digitRow isAsciiDigit text && (text.head? ≠ some '0' || text.length = 1)

def withoutUnderscores (text : List Char) : List Char := text.filter (· ≠ '_')

def inRange (n : Int) : Bool :=
  -Int.ofNat (Nat.pow 2 127) ≤ n && n < Int.ofNat (Nat.pow 2 128)

def valueIn (base : Nat) (digits : List Char) : Nat :=
  (withoutUnderscores digits).foldl (fun value c => base * value + (Json.hexValue? c).getD 0) 0

def isInteger (text : List Char) : Bool :=
  match text with
  | '0' :: 'x' :: digits => digitRow Json.isHex digits
  | '0' :: 'o' :: digits => digitRow (fun c => '0' ≤ c && c ≤ '7') digits
  | '0' :: 'b' :: digits => digitRow (fun c => c = '0' || c = '1') digits
  | _ => isDecimalRow (dropSign text)

def integerValue (text : List Char) : Int :=
  match text with
  | '0' :: 'x' :: digits => valueIn 16 digits
  | '0' :: 'o' :: digits => valueIn 8 digits
  | '0' :: 'b' :: digits => valueIn 2 digits
  | '-' :: digits => -(valueIn 10 digits : Int)
  | _ => valueIn 10 (dropSign text)

def isExponent (text : List Char) : Bool := digitRow isAsciiDigit (dropSign text)

def isFloatWord (text : List Char) : Bool :=
  dropSign text = ['i', 'n', 'f'] || dropSign text = ['n', 'a', 'n']

def isFloatRow (text : List Char) : Bool :=
  let text := dropSign text
  let mantissa := text.takeWhile fun c => c ≠ 'e' && c ≠ 'E'
  let exponentOk := match text.dropWhile fun c => c ≠ 'e' && c ≠ 'E' with
    | [] => mantissa.contains '.'
    | _ :: exponent => isExponent exponent
  match splitAt '.' mantissa with
  | [whole] => exponentOk && isDecimalRow whole
  | [whole, part] => exponentOk && isDecimalRow whole && digitRow isAsciiDigit part
  | _ => false

def isFloat (text : List Char) : Bool :=
  isFloatWord text ||
    (isFloatRow text && (Decimal.Literal.binary? (withoutUnderscores text)).isSome)

def fieldIn (width low high : Nat) (digits : List Char) : Bool :=
  digits.length = width && digits.all isAsciiDigit && low ≤ valueOf digits &&
    valueOf digits ≤ high

def daysIn (year month : Nat) : Nat :=
  if month = 2 then (if year % 4 = 0 && (year % 100 ≠ 0 || year % 400 = 0) then 29 else 28)
  else if month = 4 || month = 6 || month = 9 || month = 11 then 30 else 31

def isDay (text : List Char) : Bool :=
  match splitAt '-' text with
  | [year, month, day] =>
    fieldIn 4 0 9999 year && fieldIn 2 1 12 month &&
      fieldIn 2 1 (daysIn (valueOf year) (valueOf month)) day
  | _ => false

def secondText? (text : List Char) : Option (List Char) :=
  match splitAt '.' text with
  | [second] => if fieldIn 2 0 60 second then some second else none
  | [second, part] =>
    if fieldIn 2 0 60 second && !part.isEmpty && part.all isAsciiDigit then
      let places := ((part.take 9).reverse.dropWhile (· = '0')).reverse
      some (if places.isEmpty then second else second ++ '.' :: places)
    else none
  | _ => none

def isMinute (hour minute : List Char) : Bool := fieldIn 2 0 23 hour && fieldIn 2 0 59 minute

def timeText? (text : List Char) : Option (List Char) :=
  match splitAt ':' text with
  | [hour, minute] =>
    if isMinute hour minute then some (joinWith [':'] [hour, minute, ['0', '0']]) else none
  | [hour, minute, second] =>
    if isMinute hour minute then
      (secondText? second).map fun second => joinWith [':'] [hour, minute, second]
    else none
  | _ => none

def offsetText? (sign : Char) (text : List Char) : Option (List Char) :=
  match splitAt ':' text with
  | [hour, minute] =>
    if isMinute hour minute then
      some ((if valueOf hour = 0 && valueOf minute = 0 then '+' else sign) :: text)
    else none
  | _ => none

def zonedTimeText? (text : List Char) : Option (List Char) := do
  let time := text.takeWhile fun c => c ≠ '+' && c ≠ '-' && c ≠ 'Z' && c ≠ 'z'
  let written ← timeText? time
  match text.drop time.length with
  | [] => some written
  | mark :: offset =>
    if mark = 'Z' || mark = 'z' then (if offset.isEmpty then some (written ++ ['Z']) else none)
    else (offsetText? mark offset).map (written ++ ·)

def dateText? (text : List Char) : Option (List Char) :=
  if isDay text then some text
  else if isDay (text.take 10) then
    match text.drop 10 with
    | mark :: time =>
      if mark = 'T' || mark = 't' || mark = ' ' then
        (zonedTimeText? time).map (text.take 10 ++ 'T' :: ·)
      else none
    | [] => none
  else timeText? text

def isBarePart (c : Char) : Bool :=
  c.isAlphanum || c = '_' || c = '-' || c = '+' || c = '.' || c = ':'

/-- A scalar without quotes. A single space may join a day to a time. -/
def bareScalar (text : List Char) : Option (Scalar × List Char) :=
  let word := text.takeWhile isBarePart
  let rest := text.dropWhile isBarePart
  let (word, rest) := match rest with
    | ' ' :: c :: more =>
      if isDay word && isAsciiDigit c then
        (word ++ ' ' :: (c :: more).takeWhile isBarePart, (c :: more).dropWhile isBarePart)
      else (word, rest)
    | _ => (word, rest)
  if word = "true".toList then some (.bool true, rest)
  else if word = "false".toList then some (.bool false, rest)
  else if isInteger word then
    if inRange (integerValue word) then some (.integer word, rest) else none
  else if isFloat word then some (.float word, rest)
  else (dateText? word).map fun written => (.date written, rest)

def scalar (text : List Char) : Option (Scalar × List Char) :=
  match text.head? with
  | some c =>
    if c = '"' || c = '\x27' then
      (quotedText text).map fun (s, rest) => (.text (String.ofList s), rest)
    else bareScalar text
  | none => none

end RequestSuite.Toml
