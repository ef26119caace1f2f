import RequestSuite.Config
import RequestSuite.Conversion.Report
import RequestSuite.Variable.Archive

/-! Converting a collection into a directory of tests. The run over the requests is worked out
before the first file is written; a request that cannot be resolved is noted in the report, and a
file that cannot be written ends the conversion. -/
namespace RequestSuite.Conversion
open Files Suite Variable

structure Job where
  target : Target
  output : Path
  config : Config
  shell : String → Option String
  environment : Option Collection.Environment
  overrides : List (String × String)

namespace Job

def archive (job : Job) : Path := job.output.join (Path.ofText job.config.variablesFile)

def sources (job : Job) (collection : Collection) : Sources :=
  ⟨collection.declared, job.config.statics job.shell, job.environment, job.overrides⟩

def changesOf (job : Job) (outcome : Outcome) : List Change :=
  match outcome.result with
  | .folder =>
    [.directory (job.output.descend (outcome.visit.above ++ [outcome.visit.stem]))]
  | .written artifacts =>
    [.file (job.output.descend (outcome.path job.target))
      (job.target.render outcome.visit.depth artifacts)]
  | _ => []

def variablesModule (session : Session) : String :=
  "export const variables = " ++ session.store.merged.pretty ++ ";\n"

def package (config : Config) : Json.Value :=
  .object
    [("name", .string config.packageName),
    ("version", .string "1.0.0"),
    ("scripts", .object [("test", .string "playwright test")]),
    ("dependencies", .object [("@playwright/test", .string config.playwrightVersion)])]

def packageChanges (job : Job) : List Change :=
  match job.target with
  | .playwright => [.file (job.output.child "package.json") (package job.config).pretty]
  | .jmeter => []

/-- What is written after the tests, the variables for the next run first. -/
def lastChanges (job : Job) (session : Session) : List Change :=
  Archive.changes job.archive session.finish ++
    .file (job.output.child "variables.js") (variablesModule session) :: job.packageChanges

def changes (job : Job) (session : Session) (outcomes : List Outcome) : List Change :=
  outcomes.flatMap job.changesOf ++ job.lastChanges session

def paths (job : Job) (collection : Collection) : List Path :=
  let below := collection.visits.flatMap fun visit =>
    [visit.above ++ [visit.stem], visit.above ++ [visit.stem ++ "." ++ job.target.extension]]
  job.archive ::
    (["variables.js"] :: ["package.json"] :: below).map job.output.descend

def play (job : Job) (collection : Collection) (kept : Snapshot) : Session × List Outcome :=
  (Session.start (job.sources collection) kept).takeAll collection.visits

def run (job : Job) (collection : Collection) (workspace : Workspace) :
    Workspace × Except Failure Report :=
  match workspace.makeDirectories job.output with
  | (workspace, some fault) => (workspace, .error (.file fault))
  | (workspace, none) =>
    match Archive.read workspace job.archive with
    | .error failure => (workspace, .error failure)
    | .ok kept =>
      let (session, outcomes) := job.play collection kept
      match workspace.makeAll (job.changes session outcomes) with
      | (workspace, some fault) => (workspace, .error (.file fault))
      | (workspace, none) => (workspace, .ok (.ofRun job.target session outcomes))

end Job

end RequestSuite.Conversion
