import RequestSuite.Collection.Reader
import RequestSuite.Config
import RequestSuite.Failure

/-! The files that a conversion reads: the collection, the environment and the configuration. -/
namespace RequestSuite
open Files

def Collection.ofText (text : String) : Except Failure Collection :=
  match Json.Decode.ofText? Collection.readCollection text with
  | none => .error .json
  | some collection =>
    if collection.items.isNone then .error (.collection "missing top-level \"item\" array")
    else .ok collection

def Collection.Environment.ofText (text : String) : Except Failure Collection.Environment :=
  match Json.Decode.ofText? Collection.readEnvironment text with
  | none => .error .json
  | some environment => .ok environment

def Config.ofText (text : String) : Except Failure Config :=
  match Config.ofText? text with
  | none => .error .toml
  | some config => .ok config

namespace Files.Workspace

def loadText (workspace : Workspace) (file : String) : Except Failure String :=
  (workspace.readText (.ofText file)).mapError .file

def loadCollection (workspace : Workspace) (file : String) : Except Failure Collection :=
  (workspace.loadText file).bind Collection.ofText

def loadEnvironment (workspace : Workspace) (file : String) :
    Except Failure Collection.Environment :=
  (workspace.loadText file).bind Collection.Environment.ofText

def loadConfig (workspace : Workspace) (file : String) : Except Failure Config :=
  match workspace.readText (.ofText file) with
  | .ok text => Config.ofText text
  | .error fault =>
    .error (.config ("Failed to read config file " ++ file ++ ": " ++ fault.message))

end Files.Workspace

namespace Config

def fileName : String := "pmconvert.toml"

def upward (location : Location) : List Location :=
  (List.range (location.length + 1)).reverse.map location.take

def candidates (current : Location) (home : Option Path) : List Path :=
  (upward current).map (fun location => .ofLocation (location ++ [fileName])) ++
    home.toList.map fun path => path.descend [".config", "pmconvert", fileName]

/-- The first configuration that is there; one that cannot be used counts as the default. -/
def discover (workspace : Workspace) (home : Option Path) : Config :=
  match (candidates workspace.current home).find? workspace.isThere with
  | none => default
  | some path =>
    match workspace.readText path with
    | .ok text => (ofText? text).getD default
    | .error _ => default

end Config

end RequestSuite
