import RequestSuite.Conversion.Outcome
import RequestSuite.Suite.Target
import RequestSuite.Text.UpperCase

/-! The account of a conversion: one entry for each request, in the order of the tree. -/
namespace RequestSuite.Conversion
open Suite

structure Entry where
  number : Nat
  name : String
  path : List String
  method : String
  url : String
  checks : Nat
  error : Option String
  deriving DecidableEq, Repr

namespace Entry

def isSuccess (entry : Entry) : Bool := entry.error.isNone

def pathText (entry : Entry) : String := Text.joinTexts "/" entry.path

end Entry

namespace Outcome

def file (target : Target) (outcome : Outcome) : String :=
  outcome.visit.stem ++ "." ++ target.extension

def path (target : Target) (outcome : Outcome) : List String :=
  outcome.visit.above ++ [outcome.file target]

def isFolder (outcome : Outcome) : Bool :=
  match outcome.result with
  | .folder => true
  | _ => false

def entry? (target : Target) (outcome : Outcome) : Option Entry :=
  match outcome.result with
  | .written artifacts => some
    { number := outcome.visit.number, name := artifacts.name, path := outcome.path target
      method := artifacts.request.method, url := artifacts.request.url
      checks := artifacts.tests.script.checks.length, error := none }
  | .failed request missing => some
    { number := outcome.visit.number, name := outcome.visit.item.name, path := outcome.path target
      method := Text.upperCase request.method, url := (request.url.map Collection.Url.raw).getD ""
      checks := 0, error := some missing.message }
  | _ => none

end Outcome

structure Report where
  target : Target
  entries : List Entry
  folders : Nat
  visible : Nat
  derivations : Nat
  cacheHits : Nat
  deriving DecidableEq, Repr

namespace Report

def ofRun (target : Target) (session : Session) (outcomes : List Outcome) : Report :=
  { target
    entries := outcomes.filterMap (Outcome.entry? target)
    folders := outcomes.countP Outcome.isFolder
    visible := session.store.size
    derivations := session.cache.derivations
    cacheHits := session.cache.hits }

def written (report : Report) : Nat := report.entries.countP Entry.isSuccess

def failed (report : Report) : Nat := report.entries.length - report.written

def isSuccess (report : Report) : Bool := report.failed == 0

end Report

end RequestSuite.Conversion
