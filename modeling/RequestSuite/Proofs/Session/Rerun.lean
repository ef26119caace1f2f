import RequestSuite.Proofs.Conversion.Walk
import RequestSuite.Proofs.Session.History

/-! Runs over one collection with the same sources, one after the other. What a run hands on lies
under the same overrides and scripts in the next, so the second hands on what the first did, and
every later run is the second one again. -/
namespace RequestSuite
open Variable Conversion
open Collection (Visit Item)

namespace Session

def answers (session : Session) :
    List (Item × Collection.Request) → List (Except Template.MissingParameter Artifacts)
  | [] => []
  | (item, request) :: rest =>
    (session.process item request).2 :: (session.process item request).1.answers rest

def answered : Item × Collection.Request → Except Template.MissingParameter Artifacts → Result :=
  fun node answer => .ofProcess node.2 answer

theorem takeAllProcess (session : Session) (visits : List Visit) :
    let requests := (visits.map Visit.item).filterMap Item.requestNode?
    (session.takeAll visits).1 = session.processAll requests ∧
      (requestOutcomes (session.takeAll visits).2).map Outcome.result =
        List.zipWith answered requests (session.answers requests) := by
  induction visits generalizing session with
  | nil => exact ⟨rfl, rfl⟩
  | cons visit rest ih =>
    obtain ⟨last, results⟩ := ih (session.take visit).1
    rw [List.map_cons, takeAllCons, takeAllConsLast]
    cases kind : visit.item.requestNode? with
    | none =>
      obtain ⟨same, other⟩ := session.takeOther kind
      rw [List.filterMap_cons_none kind, requestOutcomesSkip other]
      rw [same] at last results
      rw [same]
      exact ⟨last, results⟩
    | some node =>
      obtain ⟨item, request⟩ := node
      have taken := (takeProcess kind session).2
      have wanted := resolvesIsRequest (session.takeRequest kind).2
      rw [List.filterMap_cons_some kind, requestOutcomesKeep wanted, List.map_cons, results, last,
        taken]
      exact ⟨rfl, rfl⟩

end Session

namespace Run

def answers (run : Run) (kept : Snapshot) : List (Except Template.MissingParameter Artifacts) :=
  (Session.start run.sources kept).answers run.requests

theorem finishAgain (run : Run) (kept : Snapshot) :
    (run.session (run.session kept).finish).finish = (run.session kept).finish := by
  apply NameMap.equalOfGet
  intro name
  rw [finishGet, finishGet]
  cases run.given name <;> rfl

/- The first run may differ: it may use a name before the script that sets it. The walk over the
tree of a collection is such a run over its requests. -/
theorem settlesAfterFirst (sources : Sources) (kept : Snapshot) (collection : Collection) :
    let run : Run := ⟨sources, collection.requestNodes⟩
    let once := (run.session kept).finish
    let twice := (run.session once).finish
    twice = once ∧ run.answers twice = run.answers once ∧
      ∀ before,
        let walk := (Session.start sources before).takeAll collection.visits
        walk.1 = run.session before ∧
          (requestOutcomes walk.2).map Outcome.result =
            List.zipWith Session.answered collection.requestNodes (run.answers before) := by
  intro run once twice
  have same : twice = once := run.finishAgain kept
  refine ⟨same, congrArg run.answers same, ?_⟩
  intro before
  have walked := Session.takeAllProcess (.start sources before) collection.visits
  rw [Collection.visitsItems] at walked
  exact walked

end Run

end RequestSuite
