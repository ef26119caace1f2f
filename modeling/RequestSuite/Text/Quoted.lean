import RequestSuite.Text.Digest

/-! The inside of a single-quoted string literal in a generated test file: quote, backslash and
control characters are written as escapes, all else as it is. -/
namespace RequestSuite.Text.Quoted

def isControl (c : Char) : Bool := c.toNat < 0x20 || (0x7F ≤ c.toNat && c.toNat < 0xA0)

def hexUnit (n : Nat) : List Char :=
  [Digest.hexDigit (n / 4096), Digest.hexDigit (n / 256), Digest.hexDigit (n / 16),
    Digest.hexDigit n]

def escape (c : Char) : List Char :=
  if c = '\x27' then ['\\', '\x27']
  else if c = '\\' then ['\\', '\\']
  else if c = '\n' then ['\\', 'n']
  else if c = '\r' then ['\\', 'r']
  else if c = '\t' then ['\\', 't']
  else if isControl c then '\\' :: 'u' :: hexUnit c.toNat
  else [c]

def encode (text : List Char) : List Char := text.flatMap escape

def ofText (text : String) : String := String.ofList (encode text.toList)

end RequestSuite.Text.Quoted
