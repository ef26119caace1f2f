import RequestSuite.Failure
import RequestSuite.Files.Change
import RequestSuite.Variable.Value

/-! The file in which variables are kept between runs: one JSON object and a line feed. A file that
is missing or holds white space only keeps no variables. -/
namespace RequestSuite.Variable.Archive
open Files

def ofText (text : String) : Except Failure Snapshot :=
  if (Text.trim text.toList).isEmpty then .ok .empty
  else match Json.Value.ofText? text with
    | some (.object members) => .ok (Snapshot.ofMembers members)
    | _ => .error .json

def read (workspace : Workspace) (path : Path) : Except Failure Snapshot :=
  match workspace.readText path with
  | .ok text => ofText text
  | .error .notFound => .ok .empty
  | .error fault => .error (.file fault)

def render (snapshot : Snapshot) : String := snapshot.pretty ++ "\n"

def changes (path : Path) (snapshot : Snapshot) : List Change :=
  [.missing path.parent, .file path (render snapshot)]

end RequestSuite.Variable.Archive
