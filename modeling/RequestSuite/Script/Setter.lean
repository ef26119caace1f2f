import RequestSuite.Text.Blank
import RequestSuite.Text.Scan

/-! Calls that set a variable, as they stand on a line of a script. The four scopes mean the same.
A call counts as soon as its text occurs; it is an assignment if its name is a literal and its
closing parenthesis is on the line. -/
namespace RequestSuite.Script
open Text

structure Assignment where
  name : String
  value : String
  deriving DecidableEq, Repr

structure Setters where
  assignments : List Assignment
  unparsed : Nat
  deriving DecidableEq, Repr

namespace Setter

def calls : List (List Char) :=
  ["pm.variables.set", "pm.collectionVariables.set", "pm.environment.set", "pm.globals.set"].map
    String.toList

def isQuote (c : Char) : Bool := c = '"' || c = '\x27' || c = '\x60'

def call : Finder Unit := fun text => calls.findSome? (literal · text)

def quotedName : Finder (List Char)
  | [] => none
  | c :: rest =>
    let name := rest.takeWhile (!isQuote ·)
    match rest.dropWhile (!isQuote ·) with
    | _ :: after => if isQuote c && !name.isEmpty then some (name, after) else none
    | [] => none

def head : Finder (List Char) := fun text => do
  let (_, rest) ← call text
  match rest with
  | '(' :: rest =>
    let (name, rest) ← quotedName (skipBlanks rest)
    match skipBlanks rest with
    | ',' :: rest => some (name, rest)
    | _ => none
  | _ => none

inductive Place where
  | code (depth : Nat)
  | quoted (depth : Nat) (quote : Char) (escaped : Bool)
  deriving DecidableEq, Repr

/-- The text before the parenthesis that closes the call, and what follows it. A closing bracket of
any kind closes the innermost open one. -/
def arguments : Place → List Char → Option (List Char × List Char)
  | _, [] => none
  | .quoted depth quote escaped, c :: rest =>
    let next : Place :=
      if escaped then .quoted depth quote false
      else if c = '\\' then .quoted depth quote true
      else if c = quote then .code depth
      else .quoted depth quote false
    (arguments next rest).map fun (before, after) => (c :: before, after)
  | .code depth, c :: rest =>
    if c = ')' && depth = 0 then some ([], rest)
    else
      let next : Place :=
        if isQuote c then .quoted depth c false
        else if c = '(' || c = '[' || c = '{' then .code (depth + 1)
        else if c = ')' || c = ']' || c = '}' then .code (depth - 1)
        else .code depth
      (arguments next rest).map fun (before, after) => (c :: before, after)

def stripQuotes (value : List Char) : List Char :=
  match value with
  | first :: inside =>
    if isQuote first && inside.getLast? = some first then inside.dropLast else value
  | [] => value

/-- The assignments after the first `skip` characters. A call whose parenthesis does not close
hides all that follows it. -/
def assignmentsFrom : Nat → List Char → List Assignment
  | _, [] => []
  | skip + 1, _ :: rest => assignmentsFrom skip rest
  | 0, c :: rest =>
    match head (c :: rest) with
    | none => assignmentsFrom 0 rest
    | some (name, after) =>
      match arguments (.code 0) after with
      | none => []
      | some (value, after) =>
        ⟨String.ofList name, String.ofList (stripQuotes (trim value))⟩ ::
          assignmentsFrom (rest.length - after.length) rest

def countCalls (line : List Char) : Nat :=
  calls.foldr (fun call total => countOccurrences call line + total) 0

end Setter

def Setters.ofLine? (line : List Char) : Option Setters :=
  let calls := Setter.countCalls line
  if calls = 0 then none
  else
    let assignments := Setter.assignmentsFrom 0 line
    some ⟨assignments, calls - assignments.length⟩

end RequestSuite.Script
