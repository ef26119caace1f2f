import RequestSuite.Session
import RequestSuite.Text.Quoted

/-! Browser-test files: one test per request, which sends it and then runs its checks. -/
namespace RequestSuite.Suite.SpecFile
open Text

def shorthands : List (String × String) :=
  [("GET", "get"), ("POST", "post"), ("PUT", "put"), ("PATCH", "patch"), ("DELETE", "delete"),
   ("HEAD", "head")]

def texts (pairs : List (String × String)) : Json.Value :=
  .object (Json.Value.collectMembers (pairs.map fun (name, value) => (name, .string value)))

def headerOption (request : Request.Resolved) : List (String × Json.Value) :=
  if request.headers.isEmpty then [] else [("headers", texts request.headers)]

def bodyOption : Option Request.Body → List (String × Json.Value)
  | some (.structured value) => [("data", value)]
  | some (.text raw) => [("data", .string raw)]
  | some (.form fields) => [("form", texts fields)]
  | none => []

def methodOption (method : String) : List (String × Json.Value) :=
  if (shorthands.lookup method).isSome then [] else [("method", .string method)]

def options (request : Request.Resolved) : List (String × Json.Value) :=
  headerOption request ++ bodyOption request.body ++ methodOption request.method

def indentRest (text : List Char) : List Char :=
  match printedLines text with
  | [] => []
  | first :: rest => joinWith ['\n'] (first :: rest.map (' ' :: ' ' :: ·))

def callName (method : String) : String := (shorthands.lookup method).getD "fetch"

def call (request : Request.Resolved) : List Char :=
  let opened := "request.".toList ++ (callName request.method).toList ++ "('".toList ++
    Quoted.encode request.url.toList ++ ['\x27']
  match options request with
  | [] => opened ++ [')']
  | members => opened ++ ", ".toList ++ indentRest ((Json.Value.object members).prettyChars 0) ++
      [')']

def rootFrom : (depth : Nat) → List Char
  | 0 => ['.']
  | depth + 1 => joinWith ['/'] (List.replicate (depth + 1) ['.', '.'])

def preludeText (artifacts : Artifacts) : List Char :=
  if artifacts.prelude.isEmpty then [] else artifacts.prelude.toList ++ ['\n']

def testsText (script : Script.TestScript) : List Char :=
  if script.isEmpty then [] else "\n  ".toList ++ script.code.toList

def renderChars (depth : Nat) (artifacts : Artifacts) : List Char :=
  "import \x7b test, expect \x7d from '@playwright/test';\n".toList ++
  "import \x7b variables \x7d from '".toList ++ rootFrom depth ++ "/variables.js';\n\n".toList ++
  "test('".toList ++ Quoted.encode artifacts.name.toList ++
  "', async (\x7b request \x7d) => \x7b\n".toList ++
  preludeText artifacts ++
  "  const startTime = Date.now();\n\n".toList ++
  "  const response = await ".toList ++ call artifacts.request ++ ";\n".toList ++
  "  const responseTime = Date.now() - startTime;\n".toList ++
  "  const pwResponse = await response.json().catch(() => null);\n".toList ++
  testsText artifacts.tests.script ++
  "\x7d);\n".toList

def render (depth : Nat) (artifacts : Artifacts) : String :=
  String.ofList (renderChars depth artifacts)

end RequestSuite.Suite.SpecFile
