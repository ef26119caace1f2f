import RequestSuite.Json.Printer
import RequestSuite.Text.Lines

/-! Collections of requests as their files describe them. -/
namespace RequestSuite.Collection
open Text

inductive Parts where
  | one (text : String)
  | many (texts : List String)
  deriving DecidableEq, Repr

namespace Parts

def join (separator : String) : Parts → String
  | one text => text
  | many texts => joinTexts separator texts

end Parts

structure Entry where
  key : String
  value : Json.Value
  disabled : Bool
  enabled : Option Bool
  deriving Repr, BEq

namespace Entry

def isActive (entry : Entry) : Bool := !entry.disabled && entry.enabled != some false

def text (entry : Entry) : String :=
  match entry.value with
  | .string s => s
  | .null => ""
  | other => other.compact

end Entry

structure UrlParts where
  raw : Option String
  scheme : Option String
  host : Option Parts
  port : Option String
  path : Option Parts
  query : List Entry
  parameters : List Entry
  deriving Repr, BEq

namespace UrlParts

def schemeText (url : UrlParts) : List Char :=
  match url.scheme with
  | some scheme => scheme.toList ++ "://".toList
  | none => []

def hostText (url : UrlParts) : List Char :=
  match url.host with
  | some host => (host.join ".").toList
  | none => []

def portText (url : UrlParts) : List Char :=
  match url.port with
  | some port => ':' :: port.toList
  | none => []

def pathText (url : UrlParts) : List Char :=
  match url.path with
  | some path =>
    let joined := (path.join "/").toList
    if joined.head? = some '/' then joined else '/' :: joined
  | none => []

def entryText (entry : Entry) : List Char := entry.key.toList ++ '=' :: entry.text.toList

def queryText (url : UrlParts) : List Char :=
  match (url.query.filter Entry.isActive).map entryText with
  | [] => []
  | first :: rest => '?' :: joinWith ['&'] (first :: rest)

def assemble (url : UrlParts) : String :=
  String.ofList (url.schemeText ++ url.hostText ++ url.portText ++ url.pathText ++ url.queryText)

end UrlParts

inductive Url where
  | text (raw : String)
  | parts (url : UrlParts)
  deriving Repr, BEq

namespace Url

def raw : Url → String
  | text raw => raw
  | parts url => url.raw.getD url.assemble

def pathParameters : Url → List (String × String)
  | text _ => []
  | parts url => url.parameters.map fun entry => (entry.key, entry.text)

def hasQuery : Url → Bool
  | text _ => false
  | parts url => !url.query.isEmpty

end Url

structure Body where
  mode : Option String
  raw : Option String
  urlencoded : List Entry
  deriving Repr, BEq

structure Request where
  method : String
  url : Option Url
  headers : List Entry
  body : Option Body
  deriving Repr, BEq

def Request.plain : Request := ⟨"GET", none, [], none⟩

structure Event where
  listen : String
  script : Option (Option Parts)
  deriving Repr, BEq

/-- A node of the tree: a folder if it has items, else a request if it has one. -/
inductive Item where
  | node (name : String) (items : Option (List Item)) (request : Option Request)
      (events : List Event)
  deriving Repr, BEq

namespace Item

def name : Item → String
  | node name _ _ _ => name

def items : Item → Option (List Item)
  | node _ items _ _ => items

def request : Item → Option Request
  | node _ _ request _ => request

def events : Item → List Event
  | node _ _ _ events => events

def isFolder (item : Item) : Bool := item.items.isSome

def script? (item : Item) (moment : String) : Option String := do
  let event ← item.events.find? (·.listen == moment)
  let script ← event.script
  let text ← script
  return text.join "\n"

def preludeScript? (item : Item) : Option String := item.script? "prerequest"

def testScript? (item : Item) : Option String := item.script? "test"

end Item

structure Environment where
  name : String
  values : List Entry
  deriving Repr, BEq

end RequestSuite.Collection

namespace RequestSuite

structure Collection where
  name : String
  items : Option (List Collection.Item)
  declared : List Collection.Entry
  deriving Repr, BEq

def Collection.rootItems (collection : Collection) : List Collection.Item :=
  collection.items.getD []

end RequestSuite
