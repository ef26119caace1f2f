import RequestSuite.Files.Workspace

/-! What is done to a tree of files, as data. Changes are made in order, up to the first that
fails; those before it stay. -/
namespace RequestSuite.Files

inductive Change where
  | directory (path : Path)
  /-- A directory, unless a file or a directory is found there. -/
  | missing (path : Path)
  | file (path : Path) (text : String)
  deriving DecidableEq, Repr

namespace Workspace

def make (workspace : Workspace) : Change → Attempt
  | .directory path => workspace.makeDirectories path
  | .missing path => workspace.supplyDirectory path
  | .file path text =>
    match workspace.writeText path text with
    | .ok written => (written, none)
    | .error fault => (workspace, some fault)

def makeAll (workspace : Workspace) : List Change → Attempt
  | [] => (workspace, none)
  | change :: rest =>
    match workspace.make change with
    | (made, none) => made.makeAll rest
    | failed => failed

theorem makeAllAppend (workspace : Workspace) (before after : List Change) :
    workspace.makeAll (before ++ after) =
      match workspace.makeAll before with
      | (made, none) => made.makeAll after
      | failed => failed := by
  induction before generalizing workspace with
  | nil => rfl
  | cons change rest ih =>
    simp only [List.cons_append, makeAll]
    obtain ⟨made, fault⟩ := workspace.make change
    cases fault with
    | none => exact ih made
    | some fault => rfl

end Workspace

end RequestSuite.Files
