import RequestSuite.Text.Blank
import RequestSuite.Text.Scan

/-! Holes `{{name}}` in a text. A hole lies on one line and its name ends at the first pair of
closing braces after at least one character; white space around the name is not part of it. -/
namespace RequestSuite.Template
open Text

def beforeClose : List Char → Option (List Char × List Char)
  | [] => none
  | '}' :: '}' :: rest => some ([], rest)
  | c :: rest =>
    if c = '\n' then none
    else (beforeClose rest).map fun (inside, after) => (c :: inside, after)

def hole : Finder (List Char)
  | '{' :: '{' :: c :: rest =>
    if c = '\n' then none
    else (beforeClose rest).map fun (inside, after) => (c :: inside, after)
  | _ => none

def reopen (inside : List Char) : List Char := '{' :: '{' :: inside ++ ['}', '}']

def fill (value : String → Option String) (inside : List Char) : List Char :=
  match value (String.ofList (trim inside)) with
  | some text => text.toList
  | none => reopen inside

def substitute (value : String → Option String) (text : String) : String :=
  String.ofList (replaceHits hole (fill value) text.toList)

end RequestSuite.Template
