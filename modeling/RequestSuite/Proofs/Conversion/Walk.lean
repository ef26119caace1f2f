import RequestSuite.Conversion.Job
import RequestSuite.Proofs.Collection.Nodes
import RequestSuite.Proofs.Session.Process

/-! The run over a tree. Only nodes that are requests do anything to the session: each of them adds
what its script assigns, and is resolved against all that was assigned up to and with it. -/
namespace RequestSuite.Conversion
open Collection (Visit Item)
open Variable

def Result.isRequest : Result → Bool
  | .written _ => true
  | .failed _ _ => true
  | _ => false

def Result.ofProcess (request : Collection.Request) :
    Except Template.MissingParameter Artifacts → Result
  | .ok artifacts => .written artifacts
  | .error missing => .failed request missing

def Resolves (store : Store) (item : Item) (request : Collection.Request) (result : Result) :
    Prop :=
  match Request.resolve store request with
  | .ok resolved =>
    ∃ prelude tests, result = .written ⟨item.name, resolved, prelude, tests, store.runtime⟩
  | .error missing => result = .failed request missing

theorem resolvesIsRequest {store : Store} {item : Item} {request : Collection.Request}
    {result : Result} (resolves : Resolves store item request result) :
    result.isRequest = true := by
  unfold Resolves at resolves
  split at resolves
  · obtain ⟨prelude, tests, same⟩ := resolves
    rw [same]
    rfl
  · rw [resolves]
    rfl

def requestOutcomes (outcomes : List Outcome) : List Outcome :=
  outcomes.filter fun outcome => outcome.result.isRequest

theorem requestOutcomesKeep {outcome : Outcome} (kept : outcome.result.isRequest = true)
    (rest : List Outcome) :
    requestOutcomes (outcome :: rest) = outcome :: requestOutcomes rest :=
  List.filter_cons_of_pos kept

theorem requestOutcomesSkip {outcome : Outcome} (other : outcome.result.isRequest = false)
    (rest : List Outcome) : requestOutcomes (outcome :: rest) = requestOutcomes rest :=
  List.filter_cons_of_neg (by simp [other])

theorem entryIsSome (target : Suite.Target) (outcome : Outcome) :
    (outcome.entry? target).isSome = outcome.result.isRequest := by
  unfold Outcome.entry? Result.isRequest
  cases outcome.result <;> rfl

theorem entriesAt (target : Suite.Target) (outcomes : List Outcome) (k : Nat) :
    (outcomes.filterMap (Outcome.entry? target))[k]? =
      (requestOutcomes outcomes)[k]?.bind (Outcome.entry? target) := by
  induction outcomes generalizing k with
  | nil => rfl
  | cons outcome rest ih =>
    have wanted := entryIsSome target outcome
    cases found : outcome.entry? target with
    | none =>
      rw [found] at wanted
      rw [List.filterMap_cons_none found, requestOutcomesSkip wanted.symm]
      exact ih k
    | some entry =>
      rw [found] at wanted
      rw [List.filterMap_cons_some found, requestOutcomesKeep wanted.symm]
      cases k with
      | zero => exact found.symm
      | succ k => exact ih k

end RequestSuite.Conversion

namespace RequestSuite.Session
open Collection (Visit Item)
open Conversion

theorem takeAllCons (session : Session) (visit : Visit) (rest : List Visit) :
    (session.takeAll (visit :: rest)).2 =
      ⟨visit, (session.take visit).2⟩ :: ((session.take visit).1.takeAll rest).2 := rfl

theorem takeAllConsLast (session : Session) (visit : Visit) (rest : List Visit) :
    (session.takeAll (visit :: rest)).1 = ((session.take visit).1.takeAll rest).1 := rfl

theorem takeAllPosition (session : Session) (visits : List Visit) (position : Nat) :
    (session.takeAll visits).2[position]? = visits[position]?.map fun visit =>
      ⟨visit, ((session.takeAll (visits.take position)).1.take visit).2⟩ := by
  induction visits generalizing session position with
  | nil => rfl
  | cons visit rest ih =>
    cases position with
    | zero => rfl
    | succ position => exact ih (session.take visit).1 position

theorem takeAllMember {session : Session} {visits : List Visit} {outcome : Outcome}
    (member : outcome ∈ (session.takeAll visits).2) :
    ∃ position, visits[position]? = some outcome.visit ∧
      outcome.result = ((session.takeAll (visits.take position)).1.take outcome.visit).2 := by
  obtain ⟨position, found⟩ := List.mem_iff_getElem?.1 member
  rw [takeAllPosition] at found
  obtain ⟨visit, reached, rfl⟩ := Option.map_eq_some_iff.1 found
  exact ⟨position, reached, rfl⟩

theorem takeProcess {visit : Visit} {item : Item} {request : Collection.Request}
    (node : visit.item.requestNode? = some (item, request)) (session : Session) :
    visit.item = item ∧ session.take visit =
      ((session.process item request).1,
        .ofProcess request (session.process item request).2) := by
  unfold Item.requestNode? at node
  split at node
  · contradiction
  rename_i leaf
  obtain ⟨found, present, same⟩ := Option.map_eq_some_iff.1 node
  obtain ⟨rfl, rfl⟩ := Prod.mk.inj same
  refine ⟨rfl, ?_⟩
  rw [take, if_neg leaf, present]
  simp only
  obtain ⟨next, answer⟩ := session.process visit.item found
  cases answer <;> rfl

theorem takeRequest {visit : Visit} {item : Item} {request : Collection.Request}
    (node : visit.item.requestNode? = some (item, request)) (session : Session) :
    (session.take visit).1.store = session.store.assignAll item.assigned ∧
      Resolves (session.store.assignAll item.assigned) item request (session.take visit).2 := by
  rw [(takeProcess node session).2]
  refine ⟨session.processStore item request, ?_⟩
  obtain ⟨prelude, tests, answer⟩ := session.processResult item request
  rw [answer, Resolves]
  cases Request.resolve (session.store.assignAll item.assigned) request with
  | ok resolved => exact ⟨prelude, tests, rfl⟩
  | error missing => rfl

theorem takeOther {visit : Visit} (node : visit.item.requestNode? = none) (session : Session) :
    (session.take visit).1 = session ∧ (session.take visit).2.isRequest = false := by
  unfold Item.requestNode? at node
  unfold take
  split at node
  · rename_i folder
    rw [if_pos folder]
    exact ⟨rfl, rfl⟩
  · rename_i leaf
    rw [if_neg leaf, Option.map_eq_none_iff.1 node]
    exact ⟨rfl, rfl⟩

end RequestSuite.Session

namespace RequestSuite.Conversion
open Collection (Visit Item)
open Variable

/- The induction goes over the visits; the session that reaches a visit is the one left by all
requests before it, so the store of the k-th request grows by one script at each request. -/
theorem takeAllAt (session : Session) (visits : List Visit) {k : Nat} {item : Item}
    {request : Collection.Request}
    (node : ((visits.map Visit.item).filterMap Item.requestNode?)[k]? = some (item, request)) :
    ∃ outcome, (requestOutcomes (session.takeAll visits).2)[k]? = some outcome ∧
      outcome.visit.item = item ∧
      Resolves (session.store.assignAll (Collection.assignedBy
        (((visits.map Visit.item).filterMap Item.requestNode?).take (k + 1))))
        item request outcome.result := by
  induction visits generalizing session k with
  | nil => simp at node
  | cons visit rest ih =>
    rw [List.map_cons] at node ⊢
    cases kind : visit.item.requestNode? with
    | none =>
      obtain ⟨same, other⟩ := session.takeOther kind
      rw [List.filterMap_cons_none kind] at node ⊢
      rw [Session.takeAllCons, requestOutcomesSkip other, same]
      exact ih session node
    | some first =>
      obtain ⟨found, wanted⟩ := first
      obtain ⟨stored, resolved⟩ := session.takeRequest kind
      have head := (session.takeProcess kind).1
      rw [List.filterMap_cons_some kind] at node ⊢
      rw [Session.takeAllCons, requestOutcomesKeep (resolvesIsRequest resolved)]
      cases k with
      | zero =>
        obtain ⟨rfl, rfl⟩ := Prod.mk.inj (Option.some.inj node)
        refine ⟨⟨visit, (session.take visit).2⟩, rfl, head, ?_⟩
        rw [List.take_succ_cons, List.take_zero, Collection.assignedByCons,
          Collection.assignedBy, List.flatMap_nil, List.append_nil]
        exact resolved
      | succ k =>
        obtain ⟨outcome, position, same, later⟩ := ih (session.take visit).1 node
        refine ⟨outcome, position, same, ?_⟩
        rw [List.take_succ_cons, Collection.assignedByCons, Store.assignAllAppend, ← stored]
        exact later

theorem runDone {job : Job} {collection : Collection} {workspace after : Files.Workspace}
    {report : Report} (done : job.run collection workspace = (after, .ok report)) :
    ∃ made kept, workspace.makeDirectories job.output = (made, none) ∧
      Archive.read made job.archive = .ok kept ∧
      made.makeAll (job.changes (job.play collection kept).1 (job.play collection kept).2) =
        (after, none) ∧
      report = .ofRun job.target (job.play collection kept).1 (job.play collection kept).2 := by
  unfold Job.run at done
  split at done
  · simp at done
  rename_i made ready
  split at done
  · simp at done
  rename_i kept loaded
  simp only at done
  split at done
  · simp at done
  rename_i last finished
  obtain ⟨rfl, same⟩ := Prod.mk.inj done
  exact ⟨made, kept, ready, loaded, finished, (Except.ok.inj same).symm⟩

theorem runReport {job : Job} {collection : Collection} {workspace after : Files.Workspace}
    {kept : Snapshot} {report : Report}
    (loaded : Archive.read (workspace.makeDirectories job.output).1 job.archive = .ok kept)
    (done : job.run collection workspace = (after, .ok report)) :
    report = .ofRun job.target (job.play collection kept).1 (job.play collection kept).2 := by
  obtain ⟨made, found, ready, again, -, same⟩ := runDone done
  rw [ready] at loaded
  cases loaded.symm.trans again
  exact same

theorem requestSeesScriptsSoFar (sources : Sources) (kept : Snapshot) (collection : Collection)
    {k : Nat} {item : Item} {request : Collection.Request}
    (node : collection.requestNodes[k]? = some (item, request)) :
    ∃ store outcome,
      store.declared = (sources.store kept).declared ∧
      store.kept = (sources.store kept).kept ∧
      (∀ name, store.runtime.get? name =
        NameMap.lastOf (Collection.assignedBy (collection.requestNodes.take (k + 1))) name) ∧
      (requestOutcomes ((Session.start sources kept).takeAll collection.visits).2)[k]? =
        some outcome ∧
      outcome.visit.item = item ∧ Resolves store item request outcome.result ∧
      ∀ (job : Job) (workspace after : Files.Workspace) (report : Report),
        job.sources collection = sources →
        Archive.read (workspace.makeDirectories job.output).1 job.archive = .ok kept →
        job.run collection workspace = (after, .ok report) →
        report.entries[k]? = outcome.entry? job.target := by
  rw [Collection.requestNodes, ← Collection.visitsItems] at node
  obtain ⟨outcome, position, same, resolves⟩ := takeAllAt (.start sources kept) _ node
  rw [Collection.visitsItems] at resolves
  let scripts := Collection.assignedBy (collection.requestNodes.take (k + 1))
  refine ⟨(sources.store kept).assignAll scripts, outcome, rfl, rfl, ?_, position, same,
    resolves, ?_⟩
  · intro name
    exact Sources.assignedRuntime sources kept scripts name
  · intro job workspace after report own loaded done
    have play : job.play collection kept =
        (Session.start sources kept).takeAll collection.visits := by rw [Job.play, own]
    have entries : report.entries =
        ((Session.start sources kept).takeAll collection.visits).2.filterMap
          (Outcome.entry? job.target) := by
      rw [runReport loaded done, play]
      rfl
    rw [entries, entriesAt, position]
    rfl

def chained : Collection :=
  let prelude := fun (code : String) => [Collection.Event.mk "prerequest" (some (some (.one code)))]
  let unfilled : Collection.Url :=
    .parts ⟨some "/:id", none, none, none, none, [], [⟨"key", .null, false, none⟩]⟩
  ⟨"chained", some
    [.node "folder"
      (some [.node "first" none (some .plain) (prelude "pm.environment.set('a', 'one');")])
      (some .plain) (prelude "pm.environment.set('b', 'folder');"),
     .node "broken" none (some ⟨"GET", some unfilled, [], none⟩)
      (prelude "pm.environment.set('b', 'two');"),
     .node "last" none (some .plain) []], []⟩

theorem failedScriptCounts :
    ∃ store outcome,
      store.runtime.get? "b" = some (.text "two") ∧
      (requestOutcomes ((Session.start ⟨[], [], none, []⟩ .empty).takeAll chained.visits).2)[2]? =
        some outcome ∧
      Resolves store (.node "last" none (some .plain) []) .plain outcome.result := by
  obtain ⟨store, outcome, -, -, runtime, position, -, resolves, -⟩ :=
    requestSeesScriptsSoFar ⟨[], [], none, []⟩ .empty chained (k := 2) rfl
  refine ⟨store, outcome, ?_, position, resolves⟩
  rw [runtime]
  decide

end RequestSuite.Conversion
