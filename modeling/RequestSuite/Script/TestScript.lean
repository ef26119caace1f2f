import RequestSuite.Script.Assertion
import RequestSuite.Script.TestMarker
import RequestSuite.Text.Lines

/-! Scripts that run after a response. Only lines inside test blocks are understood; a new block
ends an open one, and every other line that is not blank is dropped and counted. -/
namespace RequestSuite.Script
open Text

structure NamedCheck where
  test : String
  check : Check
  deriving DecidableEq, Repr

structure TestScript where
  code : String
  tests : List String
  checks : List NamedCheck
  dropped : Nat
  deriving DecidableEq, Repr

namespace TestScript

def empty : TestScript := ⟨"", [], [], 0⟩

def isEmpty (script : TestScript) : Bool := script.code.isEmpty

structure Reader where
  code : List Char
  tests : List String
  checks : List NamedCheck
  dropped : Nat
  inside : Bool
  current : String
  deriving DecidableEq, Repr

namespace Reader

def start : Reader := ⟨[], [], [], 0, false, ""⟩

def enter (reader : Reader) : Option String → Reader
  | some name =>
    { reader with
      code := reader.code ++ "\n  // ".toList ++ name.toList ++ ['\n']
      tests := reader.tests ++ [name]
      inside := true
      current := name }
  | none => { reader with inside := true, current := "" }

def read (reader : Reader) (line : List Char) : Reader :=
  match Assertion.check? line with
  | some check =>
    { reader with
      code := reader.code ++ "    ".toList ++ check.statement.toList ++ ['\n']
      checks := reader.checks ++ [⟨reader.current, check⟩] }
  | none => if allBlank line then reader else { reader with dropped := reader.dropped + 1 }

def mark (reader : Reader) (marker : TestMarker) : Reader :=
  let entered := reader.enter marker.name
  let read := if allBlank marker.body then entered else entered.read marker.body
  if marker.closes then { read with inside := false } else read

def step (reader : Reader) (line : List Char) : Reader :=
  match TestMarker.ofLine? line with
  | some marker => reader.mark marker
  | none =>
    if reader.inside && closesTest line then { reader with inside := false }
    else if reader.inside then reader.read line
    else if allBlank line then reader
    else { reader with dropped := reader.dropped + 1 }

def run (reader : Reader) (lines : List (List Char)) : Reader := lines.foldl step reader

end Reader

def header : List Char := "// Post-response Script (Tests)\n".toList

def ofReader (reader : Reader) : TestScript :=
  ⟨String.ofList (header ++ reader.code), reader.tests, reader.checks, reader.dropped⟩

def ofText (script : String) : TestScript := ofReader (Reader.start.run (lines script.toList))

end TestScript

end RequestSuite.Script
