import RequestSuite.Collection.Visit
import RequestSuite.Session

/-! What becomes of each node of a tree in one run. The target of the run has no part in it. -/
namespace RequestSuite.Conversion
open Collection (Visit)

inductive Result where
  | folder
  | written (artifacts : Artifacts)
  | failed (request : Collection.Request) (missing : Template.MissingParameter)
  | nothing

structure Outcome where
  visit : Visit
  result : Result

end RequestSuite.Conversion

namespace RequestSuite.Session
open Collection (Visit)
open Conversion

/-- A request that cannot be resolved does not end the run. -/
def take (session : Session) (visit : Visit) : Session × Result :=
  if visit.item.isFolder then (session, .folder)
  else match visit.item.request with
    | none => (session, .nothing)
    | some request =>
      match session.process visit.item request with
      | (next, .ok artifacts) => (next, .written artifacts)
      | (next, .error missing) => (next, .failed request missing)

def takeAll (session : Session) : List Visit → Session × List Outcome
  | [] => (session, [])
  | visit :: rest =>
    let (next, result) := session.take visit
    let (last, outcomes) := next.takeAll rest
    (last, ⟨visit, result⟩ :: outcomes)

theorem takeAllVisits (session : Session) (visits : List Visit) :
    (session.takeAll visits).2.map Outcome.visit = visits := by
  induction visits generalizing session with
  | nil => rfl
  | cons visit rest ih => simp [takeAll, ih]

end RequestSuite.Session
