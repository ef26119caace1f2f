import RequestSuite.Proofs.Conversion.Numbering
import RequestSuite.Proofs.Script.Sharing
import RequestSuite.Proofs.Session.Rerun

/-! The test scripts of a collection, read once each. A walk asks the cache for the script of every
request node, whether or not the request can then be resolved, and nothing else asks it, so a report
counts the scripts of the whole tree. -/
namespace RequestSuite
open Script
open Collection (Item)

def Collection.testScripts (requests : List (Item × Collection.Request)) : List String :=
  (requests.filterMap fun node => node.1.testScript?).filter (· ≠ "")

namespace Session

def readings (requests : List (Item × Collection.Request)) : List Cache.Call :=
  requests.map fun node => .read (node.1.testScript?.getD "")

theorem processCache (session : Session) (item : Item) (request : Collection.Request) :
    (session.process item request).1.cache =
      (session.cache.read (item.testScript?.getD "")).1 := by
  have prelude : (session.preludeOf item).1.cache = session.cache := by
    unfold preludeOf
    cases item.preludeScript? <;> rfl
  rw [← prelude]
  rfl

theorem processAllCache (session : Session) (requests : List (Item × Collection.Request)) :
    (session.processAll requests).cache = (session.cache.run (readings requests)).1 := by
  induction requests generalizing session with
  | nil => rfl
  | cons request rest ih =>
    have first := processCache session request.1 request.2
    have later := ih (session.process request.1 request.2).1
    rw [first] at later
    exact later

theorem readingsTexts (requests : List (Item × Collection.Request)) :
    (readings requests).filterMap Cache.Call.text? = Collection.testScripts requests := by
  induction requests with
  | nil => rfl
  | cons request rest ih =>
    rw [readings] at ih ⊢
    rw [List.map_cons, List.filterMap_cons, ih, Collection.testScripts, Collection.testScripts,
      List.filterMap_cons, Cache.Call.text?]
    cases request.1.testScript? with
    | none => rfl
    | some script => by_cases none : script = "" <;> simp [none]

theorem readingsLooked (requests : List (Item × Collection.Request)) :
    (readings requests).filterMap Cache.Call.looked? = Collection.testScripts requests := by
  rw [← readingsTexts, readings, List.filterMap_map, List.filterMap_map]
  rfl

theorem readingsUncleared (requests : List (Item × Collection.Request)) :
    .clear ∉ readings requests := by
  simp [readings]

end Session

namespace Conversion

theorem Job.playCache (job : Job) (collection : Collection) (kept : Variable.Snapshot) :
    (job.play collection kept).1.cache =
      (Cache.empty.run (Session.readings collection.requestNodes)).1 := by
  have walked := (Session.takeAllProcess (.start (job.sources collection) kept)
    collection.visits).1
  rw [Collection.visitsItems] at walked
  rw [Job.play, walked, Session.processAllCache]
  rfl

theorem reportCounts {job : Job} {collection : Collection} {workspace after : Files.Workspace}
    {report : Report} (done : job.run collection workspace = (after, .ok report))
    (apart : Cache.Apart (Collection.testScripts collection.requestNodes)) :
    report.derivations + report.cacheHits =
        (Collection.testScripts collection.requestNodes).length ∧
      report.derivations = (Collection.testScripts collection.requestNodes).toFinset.card := by
  obtain ⟨made, kept, -, -, -, rfl⟩ := runDone done
  rw [← Session.readingsLooked] at apart
  have clear := Cache.transparent apart
  have counted := clear.counted
  have distinct := clear.derived.trans clear.distinct
  rw [Cache.textsUncleared (Session.readingsUncleared _), Session.readingsTexts,
    ← job.playCache collection kept] at counted distinct
  exact ⟨(Nat.add_comm _ _).trans counted, distinct⟩

theorem sharedAndAccounted {calls : List Cache.Call}
    (apart : Cache.Apart (calls.filterMap Cache.Call.looked?)) :
    Cache.Transparent calls ∧
      (∀ cache : Cache, cache.read "" =
        ({ cache with issued := cache.issued + 1 }, ⟨cache.issued, .empty⟩)) ∧
      ∀ job collection workspace after report,
        Job.run job collection workspace = (after, .ok report) →
        Cache.Apart (Collection.testScripts collection.requestNodes) →
        report.derivations + report.cacheHits =
            (Collection.testScripts collection.requestNodes).length ∧
          report.derivations =
            (Collection.testScripts collection.requestNodes).toFinset.card :=
  ⟨Cache.transparent apart, Cache.readEmpty, fun _ _ _ _ _ done apart => reportCounts done apart⟩

def tested : Collection :=
  let test := fun (code : String) => [Collection.Event.mk "test" (some (some (.one code)))]
  let unfilled : Collection.Url :=
    .parts ⟨some "/:id", none, none, none, none, [], [⟨"key", .null, false, none⟩]⟩
  ⟨"tested", some
    [.node "first" none (some .plain) (test "a"),
     .node "broken" none (some ⟨"GET", some unfilled, [], none⟩) (test "a"),
     .node "last" none (some .plain) (test "b")], []⟩

def clearedBetween : List Cache.Call :=
  [.read "a", .read "b", .read "a", .clear, .find "a", .read "b", .fingerprint "c"]

theorem sharedWithFailedRequest :
    (Cache.empty.run clearedBetween).1.hits + (Cache.empty.run clearedBetween).1.derivations = 1 ∧
      ∃ after report, browserJob.run tested ⟨[], []⟩ = (after, .ok report) ∧
        report.failed = 1 ∧ report.derivations = 2 ∧ report.derivations + report.cacheHits = 3 := by
  have apart : Cache.Apart (clearedBetween.filterMap Cache.Call.looked?) := by
    unfold Cache.Apart
    decide +kernel
  obtain ⟨transparent, -, accounted⟩ := sharedAndAccounted apart
  refine ⟨transparent.counted, ?_⟩
  have ended : (browserJob.run tested ⟨[], []⟩).2.toOption.map Report.failed = some 1 := by
    decide +kernel
  obtain ⟨after, report, done, failed⟩ := runEnds Report.failed ended
  have scripts : Cache.Apart (Collection.testScripts tested.requestNodes) := by
    unfold Cache.Apart
    decide +kernel
  obtain ⟨sum, distinct⟩ := accounted browserJob tested ⟨[], []⟩ after report done scripts
  exact ⟨after, report, done, failed, distinct, sum⟩

end Conversion

end RequestSuite
