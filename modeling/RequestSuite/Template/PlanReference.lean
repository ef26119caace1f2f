import RequestSuite.Text.Blank
import RequestSuite.Text.Scan

/-! Holes become the references `${name}` of a load-test plan. White space inside the
braces is dropped, line feeds in it included; the name itself lies on one line. -/
namespace RequestSuite.Template.PlanReference
open Text

def closing : List Char → Option (List Char)
  | '}' :: '}' :: after => some after
  | c :: rest => if isBlank c then closing rest else none
  | [] => none

/-- What follows the shortest name that has a closing, and the length of the name with the `before`
characters before it. Where a blank stands in a name, no closing comes after the blanks before it,
and so none comes after it either. -/
def nameEnd (before : Nat) : List Char → Option (Nat × List Char)
  | [] => none
  | c :: rest =>
    if c = '\n' then none
    else match if isBlank c then none else closing rest with
      | some after => some (before + 1, after)
      | none => nameEnd (before + 1) rest

def name : Finder (List Char) := fun text =>
  (nameEnd 0 text).map fun (length, after) => (text.take length, after)

/-- Leaves out as much leading white space as still leaves a name: all of it if a name follows, and
else all but the last blank that may be a name. -/
def padded : Finder (List Char) := fun text =>
  let rest := skipBlanks text
  match name rest with
  | some found => some found
  | none => do
    let after ← closing rest
    let c ← (text.takeWhile isBlank).reverse.find? (· ≠ '\n')
    some ([c], after)

def hole : Finder (List Char)
  | '{' :: '{' :: rest => padded rest
  | _ => none

def refer (name : List Char) : List Char := '$' :: '{' :: name ++ ['}']

def substitute (text : String) : String := String.ofList (replaceHits hole refer text.toList)

end RequestSuite.Template.PlanReference
