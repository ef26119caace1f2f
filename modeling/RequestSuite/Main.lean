import RequestSuite.CommandLine.Run

/-! The program. What a command may look at is taken from disk into a workspace, the command is
followed there, and what it has made is put on disk. -/
namespace RequestSuite.Disk
open CommandLine Files

def name (location : Location) : String := "/" ++ Text.joinTexts "/" location

def entry? (location : Location) : IO (Option Entry) := do
  try
    return some (.file (← IO.FS.readBinFile (name location)))
  catch
    | .inappropriateType _ 21 _ => return some .directory
    | .inappropriateType .. => return none
    | .noFileOrDirectory .. => return none
    | error => throw error

def takeLocation (workspace : Workspace) (location : Location) : IO Workspace := do
  match workspace.entry? location, ← entry? location with
  | none, some entry => return workspace.put location entry
  | _, _ => return workspace

def take (workspace : Workspace) (paths : List Path) : IO Workspace :=
  (paths.flatMap workspace.way).foldlM takeLocation workspace

def putEntry (before : Workspace) (found : Location × Entry) : IO Unit := do
  if before.entry? found.1 ≠ some found.2 then
    match found.2 with
    | .directory => IO.FS.createDir (name found.1)
    | .file content => IO.FS.writeBinFile (name found.1) content

def put (before after : Workspace) : IO Unit := after.entries.forM (putEntry before)

def shell (names : List String) : IO (String → Option String) := do
  let found ← names.filterMapM fun name => do
    return (← IO.getEnv name).map fun value => (name, value)
  return fun name => found.lookup name

def surroundings (arguments : List String) : IO Surroundings := do
  let current := (Path.ofText (← IO.currentDir).toString).names
  let home := ((← IO.getEnv "HOME").filter (· ≠ "")).map Path.ofText
  let start : Workspace := ⟨current, []⟩
  match Command.ofList arguments with
  | .ok (.convert arguments) =>
    let workspace ← take start (inputPaths current home arguments)
    match readInput workspace home arguments with
    | .ok input =>
      let shell ← shell input.config.references
      let job := job shell arguments input
      return ⟨← take workspace (job.paths input.collection), shell, home⟩
    | .error _ => return ⟨workspace, fun _ => none, home⟩
  | _ => return ⟨start, fun _ => none, home⟩

end RequestSuite.Disk

open RequestSuite in
def main (arguments : List String) : IO UInt32 := do
  let surroundings ← Disk.surroundings arguments
  let (workspace, answer) := CommandLine.run surroundings arguments
  Disk.put surroundings.workspace workspace
  (← IO.getStdout).putStr answer.output
  (← IO.getStderr).putStr answer.errors
  return answer.exit.toUInt32
