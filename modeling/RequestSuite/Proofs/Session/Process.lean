import RequestSuite.Proofs.Script.Assigned
import RequestSuite.Session

/-! The store of a session. It starts with two layers filled from the sources, in the order of
precedence, and one request adds to it what its own script assigns, whether or not the request can
then be resolved. -/
namespace RequestSuite
open Variable Script

namespace Sources

def active (entries : List Collection.Entry) : List (String × Value) :=
  (entries.filter Collection.Entry.isActive).map fun entry => (entry.key, Value.ofJson entry.value)

def texts (pairs : List (String × String)) : List (String × Value) :=
  pairs.map fun pair => (pair.1, .text pair.2)

def declared (sources : Sources) : List (String × Value) :=
  active sources.collection ++ texts sources.statics ++ active sources.environmentEntries

theorem declareEntries (store : Store) (entries : List Collection.Entry) :
    entries.foldl declareEntry store = store.declareAll (active entries) := by
  rw [← Store.declareAllFold, active, List.foldl_map, List.foldl_filter]
  rfl

theorem declareTexts (store : Store) (pairs : List (String × String)) :
    pairs.foldl declareText store = store.declareAll (texts pairs) := by
  rw [← Store.declareAllFold, texts, List.foldl_map]
  rfl

theorem keepTexts (store : Store) (pairs : List (String × String)) :
    pairs.foldl keepText store = store.keepAll (texts pairs) := by
  rw [← Store.keepAllFold, texts, List.foldl_map]
  rfl

theorem storeLayers (sources : Sources) (kept : Snapshot) :
    sources.store kept =
      ((Store.load kept).declareAll sources.declared).keepAll (texts sources.overrides) := by
  simp only [store, declareEntries, declareTexts, keepTexts]
  rw [declared, Store.declareAllAppend, Store.declareAllAppend]

theorem storeRuntime (sources : Sources) (kept : Snapshot) :
    (sources.store kept).runtime = .empty := by
  rw [storeLayers]
  rfl

theorem assignedRuntime (sources : Sources) (kept : Snapshot)
    (assigned : List (String × Value)) (name : String) :
    ((sources.store kept).assignAll assigned).runtime.get? name =
      NameMap.lastOf assigned name := by
  have filled := NameMap.getInsertAll (sources.store kept).runtime assigned name
  have unset : (sources.store kept).runtime.get? name = none := by rw [storeRuntime]; rfl
  rw [unset, Option.or_none] at filled
  exact filled

theorem storeKept (sources : Sources) (kept : Snapshot) (name : String) :
    (sources.store kept).kept.get? name =
      (NameMap.lastOf (texts sources.overrides) name).or (kept.get? name) := by
  rw [storeLayers]
  exact NameMap.getInsertAll kept (texts sources.overrides) name

theorem storeDeclared (sources : Sources) (kept : Snapshot) (name : String) :
    (sources.store kept).declared.get? name = NameMap.lastOf sources.declared name := by
  rw [storeLayers]
  have filled := NameMap.getInsertAll .empty sources.declared name
  rwa [NameMap.getEmpty, Option.or_none] at filled

end Sources

def Collection.Item.assigned (item : Collection.Item) : List (String × Value) :=
  match item.preludeScript? with
  | some script => assignedBy script
  | none => []

def Collection.assignedBy (requests : List (Collection.Item × Collection.Request)) :
    List (String × Value) :=
  requests.flatMap fun request => request.1.assigned

theorem Collection.assignedByCons (request : Collection.Item × Collection.Request)
    (rest : List (Collection.Item × Collection.Request)) :
    Collection.assignedBy (request :: rest) =
      request.1.assigned ++ Collection.assignedBy rest :=
  List.flatMap_cons

namespace Session

theorem preludeStore (session : Session) (item : Collection.Item) :
    (session.preludeOf item).1.store = session.store.assignAll item.assigned := by
  unfold preludeOf Collection.Item.assigned
  cases item.preludeScript? with
  | none => rfl
  | some script => exact readPreludeStore session.store script

theorem processStore (session : Session) (item : Collection.Item) (request : Collection.Request) :
    (session.process item request).1.store = session.store.assignAll item.assigned :=
  preludeStore session item

/- The request sees its own script, and a fault takes nothing back. -/
theorem processResult (session : Session) (item : Collection.Item)
    (request : Collection.Request) :
    ∃ prelude tests, (session.process item request).2 =
      (Request.resolve (session.store.assignAll item.assigned) request).map fun resolved =>
        ⟨item.name, resolved, prelude, tests,
          (session.store.assignAll item.assigned).runtime⟩ := by
  refine ⟨(session.preludeOf item).2, ((session.preludeOf item).1.testsOf item).2, ?_⟩
  rw [← preludeStore]
  rfl

def processAll (session : Session) (requests : List (Collection.Item × Collection.Request)) :
    Session :=
  requests.foldl (fun found request => (found.process request.1 request.2).1) session

theorem processAllStore (session : Session)
    (requests : List (Collection.Item × Collection.Request)) :
    (session.processAll requests).store =
      session.store.assignAll (Collection.assignedBy requests) := by
  induction requests generalizing session with
  | nil => rfl
  | cons request rest ih =>
    have first := processStore session request.1 request.2
    have later := ih (session.process request.1 request.2).1
    rw [Collection.assignedByCons, Store.assignAllAppend, ← first]
    exact later

end Session

end RequestSuite
