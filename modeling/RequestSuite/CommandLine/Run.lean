import RequestSuite.CommandLine.Command
import RequestSuite.CommandLine.Table
import RequestSuite.Conversion.Input
import RequestSuite.Conversion.Job

/-! Following a command line: files are read and written in a workspace, and what is to be printed
is the answer. -/
namespace RequestSuite.CommandLine
open Conversion Files

structure Answer where
  exit : Nat
  output : String
  errors : String
  deriving DecidableEq, Repr

structure Surroundings where
  workspace : Workspace
  shell : String → Option String
  home : Option Path

def number (n : Nat) : String := String.ofList (Nat.toDigits 10 n)

def header (name target output : String) : String :=
  "\nConverting " ++ name ++ " to " ++ target ++ " in " ++ output ++ "...\n\n"

def entryCells (entry : Conversion.Entry) : List String :=
  [String.ofList (Text.Stem.padded entry.number), entry.name, entry.method, entry.url,
    entry.pathText, number entry.checks, if entry.isSuccess then "✓" else "✗"]

def table (report : Report) : Table :=
  .ofTexts ["#", "Name", "Method", "URL", "File", "Checks", "Status"]
    (report.entries.map entryCells)

def errorLine? (entry : Conversion.Entry) : Option String :=
  entry.error.map fun error =>
    "   Error [" ++ String.ofList (Text.Stem.padded entry.number) ++ "] " ++ entry.name ++ ": " ++
      error ++ "\n"

def requestCounts (report : Report) : String :=
  let failed := if report.isSuccess then "" else number report.failed ++ " failed, "
  number report.written ++ " written, " ++ failed ++ number report.entries.length ++ " total"

def line (title content : String) : String := "  " ++ title ++ ": " ++ content ++ "\n"

def bar : String := String.ofList (List.replicate 50 '━') ++ "\n"

def summary (report : Report) (verbose : Bool) (output : String) : String :=
  let scripts :=
    if verbose then
      line "Test scripts"
        (number report.derivations ++ " translated, " ++ number report.cacheHits ++ " reused")
    else ""
  "\n" ++ bar ++ "Summary\n" ++ bar ++ line "Requests" (requestCounts report) ++
    line "Folders" (number report.folders) ++ line "Variables" (number report.visible) ++
    scripts ++ line "Output" output ++ "\n"

def account (report : Report) (arguments : Arguments) : String :=
  (table report).text ++ "\n" ++ String.join (report.entries.filterMap errorLine?) ++
    summary report arguments.verbose arguments.output

structure Input where
  config : Config
  collection : Collection
  environment : Option Collection.Environment

def inputPaths (current : Location) (home : Option Path) (arguments : Arguments) : List Path :=
  let configs := match arguments.config with
    | some file => [Path.ofText file]
    | none => Config.candidates current home
  configs ++ (arguments.collection :: arguments.environment.toList).map Path.ofText

/-- The configuration is read first, then the collection, then the environment. -/
def readInput (workspace : Workspace) (home : Option Path) (arguments : Arguments) :
    Except Failure Input := do
  let config ← match arguments.config with
    | some file => workspace.loadConfig file
    | none => pure (Config.discover workspace home)
  let collection ← workspace.loadCollection arguments.collection
  let environment ← match arguments.environment with
    | some file => (workspace.loadEnvironment file).map some
    | none => pure none
  return ⟨config, collection, environment⟩

def job (shell : String → Option String) (arguments : Arguments) (input : Input) : Job :=
  { target := arguments.target.getD input.config.target
    output := .ofText arguments.output
    config := input.config
    shell
    environment := input.environment
    overrides := arguments.overrides }

def failed (output : String) (failure : Failure) : Answer :=
  ⟨1, output, "Error: " ++ failure.message ++ "\n"⟩

def convert (surroundings : Surroundings) (arguments : Arguments) : Workspace × Answer :=
  match readInput surroundings.workspace surroundings.home arguments with
  | .error failure => (surroundings.workspace, failed "" failure)
  | .ok input =>
    let job := job surroundings.shell arguments input
    let start := header input.collection.name job.target.name arguments.output
    match job.run input.collection surroundings.workspace with
    | (workspace, .error failure) => (workspace, failed start failure)
    | (workspace, .ok report) => (workspace, ⟨0, start ++ account report arguments, ""⟩)

def run (surroundings : Surroundings) (arguments : List String) : Workspace × Answer :=
  match Command.ofList arguments with
  | .error misuse => (surroundings.workspace, ⟨2, "", misuse.message⟩)
  | .ok (.tell text) => (surroundings.workspace, ⟨0, text, ""⟩)
  | .ok (.convert arguments) => convert surroundings arguments

end RequestSuite.CommandLine
