import RequestSuite.Script.Setter
import RequestSuite.Text.Lines
import RequestSuite.Variable.Store

/-! Scripts that run before a request. Their assignments go into the runtime layer; their other
lines are copied, and a declaration of the whole runtime layer ends the copy. -/
namespace RequestSuite.Script
open Text Variable

namespace Prelude

def assign (store : Store) (assignment : Assignment) : Store :=
  store.assign assignment.name (Value.coerce assignment.value)

/-- What a line copies and the store it leaves. A line with a setter copies nothing. -/
def line (store : Store) (text : List Char) : Store × List Char :=
  match Setters.ofLine? text with
  | some setters => (setters.assignments.foldl assign store, [])
  | none => (store, ' ' :: ' ' :: text ++ ['\n'])

def header : List Char := "  // Pre-request Script\n".toList

def declaration (store : Store) : List Char :=
  "  const prerequest_variables = ".toList ++ store.runtime.toJson.prettyChars 0 ++ ['\n']

def readLines (store : Store) : List (List Char) → Store × List Char
  | [] => (store, [])
  | text :: rest =>
    let (next, copied) := line store text
    let (last, more) := readLines next rest
    (last, copied ++ more)

end Prelude

def readPrelude (store : Store) (script : String) : Store × String :=
  if script.isEmpty then (store, "")
  else
    let (last, copied) := Prelude.readLines store (lines script.toList)
    (last, String.ofList (Prelude.header ++ copied ++ Prelude.declaration last))

end RequestSuite.Script
