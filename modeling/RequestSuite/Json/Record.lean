import RequestSuite.Json.Value

/-! Reading a JSON text as a record of known fields. An object gives the fields by name and may have
others, which need only be well formed; an array gives them by position. -/
namespace RequestSuite.Json

abbrev Decoder (α : Type) := Nat → Tree → Option α

structure Fields where
  found : List (String × Tree)
  positional : Bool

namespace Fields

def ofMembers? (names : List String) : List (List Char × Tree) → Option (List (String × Tree))
  | [] => some []
  | (raw, tree) :: rest => do
    let key ← unescape? raw
    let found ← ofMembers? names rest
    if !names.contains key then some found
    else if (found.lookup key).isSome then none
    else some ((key, tree) :: found)

def ofTree? (names : List String) : Tree → Option Fields
  | .object members => (ofMembers? names members).map (⟨·, false⟩)
  | .array items => if items.length ≤ names.length then some ⟨names.zip items, true⟩ else none
  | _ => none

def withDefault {α : Type} (fields : Fields) (name : String) (fallback : α)
    (decode : Tree → Option α) : Option α :=
  match fields.found.lookup name with
  | some tree => decode tree
  | none => some fallback

def optional {α : Type} (fields : Fields) (name : String) (decode : Tree → Option α) :
    Option (Option α) :=
  match fields.found.lookup name with
  | some .null => some none
  | some tree => (decode tree).map some
  | none => if fields.positional then none else some none

end Fields

namespace Decode

def string : Decoder String
  | _, .string raw => unescape? raw
  | _, _ => none

def bool : Decoder Bool
  | _, .bool b => some b
  | _, _ => none

def value : Decoder Value := Value.ofTree?

def list {α : Type} (item : Decoder α) : Decoder (List α)
  | levels + 1, .array items => items.mapM (item levels)
  | _, _ => none

def record {α : Type} (names : List String) (read : Nat → Fields → Option α) : Decoder α
  | levels + 1, tree => (Fields.ofTree? names tree).bind (read levels)
  | 0, _ => none

/-- Reads all leaves before the reader looks at the tree, so that nothing in it may be malformed. -/
def buffered {α : Type} (read : Decoder α) : Decoder α := fun levels tree =>
  (Value.ofTree? levels tree).bind fun _ => read levels tree

def ofText? {α : Type} (decode : Decoder α) (text : String) : Option α :=
  (Tree.ofText? text.toList).bind (decode Value.maxLevels)

end Decode

end RequestSuite.Json
