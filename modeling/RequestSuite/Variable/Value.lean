import RequestSuite.Decimal.Literal
import RequestSuite.Json.Printer
import RequestSuite.Text.Blank
import RequestSuite.NameMap

/-! Values of variables: numbers or texts. -/
namespace RequestSuite.Variable
open Decimal

inductive Value where
  | number (n : Number)
  | text (s : String)
  deriving DecidableEq, Repr

namespace Value

def display : Value → String
  | number n => String.ofList n.text
  | text s => s

def coerce (raw : String) : Value :=
  match Literal.number? (Text.trim raw.toList) with
  | some n => number n
  | none => text raw

/-- Texts and numbers stay; null is the empty text; all else is its JSON text. -/
def ofJson : Json.Value → Value
  | .string s => text s
  | .number n => number n
  | .null => text ""
  | other => text other.compact

def toJson : Value → Json.Value
  | number n => .number n
  | text s => .string s

def ofJson? : Json.Value → Option Value
  | .string s => some (text s)
  | .number n => some (number n)
  | _ => none

end Value

abbrev Snapshot := NameMap Value

namespace Snapshot

def toJson (snapshot : Snapshot) : Json.Value :=
  .object (snapshot.entries.map fun (name, value) => (name, value.toJson))

def ofMembers (members : List (String × Json.Value)) : Snapshot :=
  NameMap.ofList (members.map fun (name, value) => (name, Value.ofJson value))

def pretty (snapshot : Snapshot) : String := (toJson snapshot).pretty

end Snapshot

end RequestSuite.Variable
