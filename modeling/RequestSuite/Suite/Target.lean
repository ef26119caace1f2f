import RequestSuite.Suite.LoadPlan
import RequestSuite.Suite.SpecFile

/-! The two kinds of test suite that a collection can become. -/
namespace RequestSuite.Suite

inductive Target where
  | playwright
  | jmeter
  deriving DecidableEq, Repr

namespace Target

def name : Target → String
  | playwright => "playwright"
  | jmeter => "jmeter"

def all : List Target := [playwright, jmeter]

def ofName? (name : String) : Option Target := all.find? (·.name == name)

def extension : Target → String
  | playwright => "spec.js"
  | jmeter => "jmx"

def render (target : Target) (depth : Nat) (artifacts : Artifacts) : String :=
  match target with
  | playwright => SpecFile.render depth artifacts
  | jmeter => LoadPlan.render artifacts

end Target

end RequestSuite.Suite
