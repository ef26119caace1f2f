import RequestSuite.Json.Reading
import RequestSuite.Json.Tree

/-! JSON values: trees whose leaves have been read. An object has each key once, where it first
stood and with the value that came last. -/
namespace RequestSuite.Json
open Decimal

inductive Value where
  | null
  | bool (b : Bool)
  | number (n : Number)
  | string (text : String)
  | array (items : List Value)
  | object (members : List (String × Value))
  deriving Repr, BEq

namespace Value

/-- Replaces the value of a key that is there, else adds the member at the end. -/
def put (key : String) (value : Value) : List (String × Value) → List (String × Value)
  | [] => [(key, value)]
  | (other, old) :: rest =>
    if other = key then (other, value) :: rest else (other, old) :: put key value rest

def collectMembers (members : List (String × Value)) : List (String × Value) :=
  members.foldl (fun found (key, value) => put key value found) []

mutual
def ofTree? : Nat → Tree → Option Value
  | _, .null => some .null
  | _, .bool b => some (.bool b)
  | _, .number text => text.number?.map .number
  | _, .string raw => (unescape? raw).map .string
  | 0, .array _ => none
  | levels + 1, .array items => (ofItems? levels items).map .array
  | 0, .object _ => none
  | levels + 1, .object members =>
    (ofMembers? levels members).map fun found => .object (collectMembers found)

def ofItems? : Nat → List Tree → Option (List Value)
  | _, [] => some []
  | levels, item :: rest => do
    let value ← ofTree? levels item
    let values ← ofItems? levels rest
    some (value :: values)

def ofMembers? : Nat → List (List Char × Tree) → Option (List (String × Value))
  | _, [] => some []
  | levels, (raw, item) :: rest => do
    let key ← unescape? raw
    let value ← ofTree? levels item
    let members ← ofMembers? levels rest
    some ((key, value) :: members)
end

def maxLevels : Nat := 127

def ofText? (text : String) : Option Value :=
  (Tree.ofText? text.toList).bind (ofTree? maxLevels)

def field? (key : String) : Value → Option Value
  | object members => members.lookup key
  | _ => none

end Value

end RequestSuite.Json
