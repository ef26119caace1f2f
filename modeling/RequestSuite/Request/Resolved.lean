import RequestSuite.Collection.Basic
import RequestSuite.Template.PathParameter
import RequestSuite.Template.PlanReference
import RequestSuite.Text.UpperCase
import RequestSuite.Variable.Store

/-! Requests with all variables filled in. A URL is filled in three steps, whose order matters:
holes from all layers, path parameters, and holes of query values from the runtime layer. Only the
second step can fail. -/
namespace RequestSuite.Request
open Text Variable Template

inductive Body where
  | structured (value : Json.Value)
  | text (raw : String)
  | form (fields : List (String × String))
  deriving Repr, BEq

namespace Body

def pairText (pair : String × String) : List Char := pair.1.toList ++ '=' :: pair.2.toList

def raw : Body → String
  | structured value => value.pretty
  | text raw => raw
  | form fields => String.ofList (joinWith ['&'] (fields.map pairText))

def isStructured : Body → Bool
  | structured _ => true
  | _ => false

end Body

structure Resolved where
  method : String
  url : String
  headers : List (String × String)
  body : Option Body
  deriving Repr, BEq

def sameName (a b : String) : Bool := a.toList.map Char.toLower == b.toList.map Char.toLower

def Resolved.header? (request : Resolved) (name : String) : Option String :=
  (request.headers.find? (sameName ·.1 name)).map (·.2)

/-- A header of the same name keeps its place and spelling and takes the new value. -/
def putHeader (name value : String) : List (String × String) → List (String × String)
  | [] => [(name, value)]
  | (other, old) :: rest =>
    if sameName other name then (other, value) :: rest
    else (other, old) :: putHeader name value rest

def headers (store : Store) (entries : List Collection.Entry) : List (String × String) :=
  (entries.filter Collection.Entry.isActive).foldl
    (fun found entry => putHeader entry.key (store.substitute entry.text) found) []

def pathStep (store : Store) (declared : List (String × String)) (url : String) :
    Except MissingParameter String :=
  if declared.isEmpty then .ok url
  else PathParameter.resolve
    (declared.map fun (name, value) => (name, store.substitute value)) url

def url (store : Store) : Option Collection.Url → Except MissingParameter String
  | none => .ok ""
  | some spec => do
    let filled ← pathStep store spec.pathParameters (store.substitute spec.raw)
    return if spec.hasQuery then store.runtime.fillQuery filled else filled

def rawBody (store : Store) (raw : String) : Option Body :=
  if allBlank raw.toList then none
  else
    let filled := store.substitute raw
    match Json.Value.ofText? filled with
    | some value => some (.structured value)
    | none => some (.text filled)

def formBody (store : Store) (entries : List Collection.Entry) : Option Body :=
  match (entries.filter Collection.Entry.isActive).map
      fun entry => (entry.key, store.substitute entry.text) with
  | [] => none
  | fields => some (.form fields)

def body (store : Store) (spec : Collection.Body) : Option Body :=
  match spec.mode with
  | none => spec.raw.bind (rawBody store)
  | some mode =>
    if mode = "raw" then spec.raw.bind (rawBody store)
    else if mode = "urlencoded" then formBody store spec.urlencoded
    else none

def resolve (store : Store) (spec : Collection.Request) : Except MissingParameter Resolved := do
  let url ← url store spec.url
  return ⟨upperCase spec.method, url, headers store spec.headers, spec.body.bind (body store)⟩

end RequestSuite.Request
