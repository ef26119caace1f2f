import RequestSuite.Text.Scan

/-! References `${NAME}` to variables of the process environment. A name has capital letters,
digits and underscores and does not start with a digit. -/
namespace RequestSuite.Template.ShellReference
open Text

def isNameStart (c : Char) : Bool := c.isUpper || c = '_'

def isNamePart (c : Char) : Bool := c.isUpper || c.isDigit || c = '_'

def reference : Finder (List Char)
  | '$' :: '{' :: c :: rest =>
    match rest.dropWhile isNamePart with
    | '}' :: after => if isNameStart c then some (c :: rest.takeWhile isNamePart, after) else none
    | _ => none
  | _ => none

def fill (value : String → Option String) (name : List Char) : List Char :=
  match value (String.ofList name) with
  | some text => text.toList
  | none => '$' :: '{' :: name ++ ['}']

def resolve (value : String → Option String) (text : String) : String :=
  String.ofList (replaceHits reference (fill value) text.toList)

def names (text : String) : List String := (hits reference text.toList).map String.ofList

end RequestSuite.Template.ShellReference
