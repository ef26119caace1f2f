import RequestSuite.Text.Scan

/-! Path parameters `:name`, at the start of a path segment only, so that the port of a host is
none. Every parameter must be declared; of several declarations the last counts. -/
namespace RequestSuite.Template
open Text

structure MissingParameter where
  name : String
  deriving DecidableEq, Repr

def MissingParameter.message (missing : MissingParameter) : String :=
  "Missing value for path parameter: " ++ missing.name

namespace PathParameter

def isNameStart (c : Char) : Bool := c.isAlpha || c = '_'

def isNamePart (c : Char) : Bool := c.isAlphanum || c = '_'

def atSegment : Finder (List Char)
  | ':' :: c :: rest =>
    if isNameStart c then some (c :: rest.takeWhile isNamePart, rest.dropWhile isNamePart)
    else none
  | _ => none

def afterSlash : Finder (List Char × List Char)
  | '/' :: rest => (atSegment rest).map fun (name, after) => ((['/'], name), after)
  | _ => none

/-- The parameters of a whole text, each with the slash in front of it. The text itself opens a
segment. -/
def pieces (text : List Char) : List (Piece (List Char × List Char)) :=
  match atSegment text with
  | some (name, after) => .hit ([], name) :: scan afterSlash after
  | none => scan afterSlash text

def value? (declared : List (String × String)) (name : String) : Option String :=
  declared.reverse.lookup name

def fill (declared : List (String × String)) :
    Piece (List Char × List Char) → Except MissingParameter (List Char)
  | .plain c => .ok [c]
  | .hit (slash, name) =>
    match value? declared (String.ofList name) with
    | some value => .ok (slash ++ value.toList)
    | none => .error ⟨String.ofList name⟩

def resolve (declared : List (String × String)) (text : String) :
    Except MissingParameter String := do
  let parts ← (pieces text.toList).mapM (fill declared)
  return String.ofList parts.flatten

end PathParameter

end RequestSuite.Template
