import RequestSuite.Json.Token

/-! The syntax tree of a JSON text. Its leaves are tokens as written, so a tree may hold a string
or a number that no value stands for, and an object keeps every member in order. -/
namespace RequestSuite.Json

inductive Tree where
  | null
  | bool (b : Bool)
  | number (text : NumberText)
  | string (raw : List Char)
  | array (items : List Tree)
  | object (members : List (List Char × Tree))
  deriving Repr, BEq

namespace Tree

/-- A container that is still open, with what it holds so far, the latest first. -/
inductive Frame where
  | items (before : List Tree)
  | member (before : List (List Char × Tree)) (key : List Char)
  deriving Repr

inductive State where
  | value (stack : List Frame)
  | firstItem (stack : List Frame)
  | firstKey (stack : List Frame)
  | key (before : List (List Char × Tree)) (stack : List Frame)
  | colon (before : List (List Char × Tree)) (key : List Char) (stack : List Frame)
  | closed (tree : Tree) (stack : List Frame)
  deriving Repr

def openValue (stack : List Frame) : Token → Option State
  | .null => some (.closed .null stack)
  | .bool b => some (.closed (.bool b) stack)
  | .number text => some (.closed (.number text) stack)
  | .string raw => some (.closed (.string raw) stack)
  | .openArray => some (.firstItem stack)
  | .openObject => some (.firstKey stack)
  | _ => none

def afterValue (tree : Tree) : List Frame → Token → Option State
  | .items before :: stack, .comma => some (.value (.items (tree :: before) :: stack))
  | .items before :: stack, .closeArray => some (.closed (.array (tree :: before).reverse) stack)
  | .member before key :: stack, .comma => some (.key ((key, tree) :: before) stack)
  | .member before key :: stack, .closeObject =>
    some (.closed (.object ((key, tree) :: before).reverse) stack)
  | _, _ => none

def step : State → Token → Option State
  | .value stack, token => openValue stack token
  | .firstItem stack, .closeArray => some (.closed (.array []) stack)
  | .firstItem stack, token => openValue (.items [] :: stack) token
  | .firstKey stack, .closeObject => some (.closed (.object []) stack)
  | .firstKey stack, .string raw => some (.colon [] raw stack)
  | .firstKey _, _ => none
  | .key before stack, .string raw => some (.colon before raw stack)
  | .key _ _, _ => none
  | .colon before key stack, .colon => some (.value (.member before key :: stack))
  | .colon _ _ _, _ => none
  | .closed tree stack, token => afterValue tree stack token

def run (state : State) : List Token → Option State
  | [] => some state
  | token :: rest => (step state token).bind (run · rest)

def ofTokens? (tokens : List Token) : Option Tree :=
  match run (.value []) tokens with
  | some (.closed tree []) => some tree
  | _ => none

def ofText? (text : List Char) : Option Tree := (tokens? text).bind ofTokens?

end Tree

end RequestSuite.Json
