import RequestSuite.NameMap
import RequestSuite.Suite.Target
import RequestSuite.Template.ShellReference
import RequestSuite.Toml.Document

/-! Settings of a conversion. Every setting has a default, settings that are not known are passed
over, and a setting of the wrong kind spoils the file. -/
namespace RequestSuite
open Suite Toml

structure Config where
  target : Target
  variablesFile : String
  packageName : String
  playwrightVersion : String
  declared : NameMap String
  deriving DecidableEq, Repr

namespace Config

def default : Config := ⟨.playwright, "variables.json", "playwright-tests", "^1.0.0", .empty⟩

def text? : Node → Option String
  | .scalar (.text s) => some s
  | _ => none

def entries? : Node → Option Entries
  | .inlineTable entries => some entries
  | .table _ entries => some entries
  | _ => none

def isEmptyNode : Node → Bool
  | .array items => items.isEmpty
  | node => (entries? node).any List.isEmpty

/-- A target is named by a text, or by a table whose only name has nothing in it. -/
def target? (node : Node) : Option Target :=
  match text? node, entries? node with
  | some name, _ => Target.ofName? name
  | none, some [(name, inner)] => if isEmptyNode inner then Target.ofName? name else none
  | none, _ => none

def dateName : String := "$__toml_private_datetime"

def declared? : Node → Option (NameMap String)
  | .scalar (.date written) => some (NameMap.ofList [(dateName, String.ofList written)])
  | node => do
    let entries ← entries? node
    let pairs ← entries.mapM fun (name, node) => (text? node).map fun value => (name, value)
    some (NameMap.ofList pairs)

def setting {α : Type} (entries : Entries) (name : String) (fallback : α)
    (read : Node → Option α) : Option α :=
  match entries.lookup name with
  | some node => read node
  | none => some fallback

def ofText? (text : String) : Option Config := do
  let entries ← document? text
  let target ← setting entries "target" default.target target?
  let variablesFile ← setting entries "variables_file" default.variablesFile text?
  let packageName ← setting entries "package_name" default.packageName text?
  let playwrightVersion ← setting entries "playwright_version" default.playwrightVersion text?
  let declared ← setting entries "variables" default.declared declared?
  some ⟨target, variablesFile, packageName, playwrightVersion, declared⟩

def statics (config : Config) (shell : String → Option String) : List (String × String) :=
  config.declared.entries.map fun (name, value) =>
    (name, Template.ShellReference.resolve shell value)

def references (config : Config) : List String :=
  config.declared.entries.flatMap fun (_, value) => Template.ShellReference.names value

end Config

end RequestSuite
