import RequestSuite.Text.Blank
import RequestSuite.Text.Scan

/-! The lines that open and close a test block. -/
namespace RequestSuite.Script
open Text

structure TestMarker where
  name : Option String
  body : List Char
  closes : Bool
  deriving DecidableEq, Repr

namespace TestMarker

def call : List Char := "pm.test(".toList

def blockEnd : List Char := "\x7d);".toList

def quoted : Finder (List Char)
  | [] => none
  | quote :: rest =>
    if quote = '"' || quote = '\x27' || quote = '\x60' then
      let inside := rest.takeWhile (· ≠ quote)
      match rest.dropWhile (· ≠ quote) with
      | _ :: after => if inside.isEmpty then none else some (inside, after)
      | [] => none
    else none

def afterBrace (name : Option String) (text : List Char) : TestMarker :=
  match splitOnce blockEnd text with
  | some (body, _) => ⟨name, body, true⟩
  | none => ⟨name, text, false⟩

def braceBlock (name : Option String) (text : List Char) : TestMarker :=
  match splitOnce ['{'] text with
  | some (_, after) => afterBrace name after
  | none => ⟨name, [], false⟩

/-- What follows the first arrow, if that arrow stands before any brace and no brace follows it. -/
def expressionBody (text : List Char) : Option (List Char) :=
  match splitOnce ['=', '>'] text with
  | some (before, after) =>
    if before.contains '{' || (skipBlanks after).head? = some '{' then none else some after
  | none => none

def ofCallback (name : Option String) (text : List Char) : TestMarker :=
  match expressionBody text with
  | some body => ⟨name, body, true⟩
  | none => braceBlock name text

def ofLine? (line : List Char) : Option TestMarker :=
  (splitOnce call line).map fun (_, rest) =>
    match quoted (skipBlanks rest) with
    | some (name, after) => ofCallback (some (String.ofList name)) after
    | none => ofCallback none rest

end TestMarker

def closesTest (line : List Char) : Bool := contains TestMarker.blockEnd line

end RequestSuite.Script
