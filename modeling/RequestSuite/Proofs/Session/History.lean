import RequestSuite.Proofs.Session.Process

/-! Runs that follow one another, each started with what the one before has handed on. What a name
means in the last run depends on all of them, but only through scripts and overrides: the other
sources are read anew by each run and are never handed on. -/
namespace RequestSuite
open Variable

/- The requests of a run are those taken so far, so a run may stand at any of its points. -/
structure Run where
  sources : Sources
  requests : List (Collection.Item × Collection.Request)

namespace Run

def session (run : Run) (kept : Snapshot) : Session :=
  (Session.start run.sources kept).processAll run.requests

def assigned (run : Run) : List (String × Value) := Collection.assignedBy run.requests

def overridden (run : Run) : List (String × Value) := Sources.texts run.sources.overrides

def given (run : Run) (name : String) : Option Value :=
  (NameMap.lastOf run.assigned name).or (NameMap.lastOf run.overridden name)

theorem sessionStore (run : Run) (kept : Snapshot) :
    (run.session kept).store = (run.sources.store kept).assignAll run.assigned :=
  Session.processAllStore (Session.start run.sources kept) run.requests

theorem runtimeGet (run : Run) (kept : Snapshot) (name : String) :
    (run.session kept).store.runtime.get? name = NameMap.lastOf run.assigned name := by
  rw [sessionStore]
  exact Sources.assignedRuntime run.sources kept run.assigned name

theorem keptGet (run : Run) (kept : Snapshot) (name : String) :
    (run.session kept).store.kept.get? name =
      (NameMap.lastOf run.overridden name).or (kept.get? name) := by
  rw [sessionStore]
  exact Sources.storeKept run.sources kept name

theorem declaredGet (run : Run) (kept : Snapshot) (name : String) :
    (run.session kept).store.declared.get? name = NameMap.lastOf run.sources.declared name := by
  rw [sessionStore]
  exact Sources.storeDeclared run.sources kept name

theorem finishGet (run : Run) (kept : Snapshot) (name : String) :
    (run.session kept).finish.get? name = (run.given name).or (kept.get? name) := by
  rw [Session.finish, Store.exportedGet, runtimeGet, keptGet, given, Option.or_assoc]

theorem givenIsSome (run : Run) (name : String) :
    (run.given name).isSome ↔ ∃ entry ∈ run.overridden ++ run.assigned, entry.1 = name := by
  rw [given, ← NameMap.lastOfAppend, NameMap.lastOfIsSome]

end Run

namespace Sources

def value (sources : Sources) (name : String) : Option Value :=
  (NameMap.lastOf (active sources.environmentEntries) name).or
    ((NameMap.lastOf (texts sources.statics) name).or
      (NameMap.lastOf (active sources.collection) name))

theorem lastDeclared (sources : Sources) (name : String) :
    NameMap.lastOf sources.declared name = sources.value name := by
  rw [declared, NameMap.lastOfAppend, NameMap.lastOfAppend]
  rfl

end Sources

namespace History

def handedOn (first : Snapshot) (runs : List Run) : Snapshot :=
  runs.foldl (fun kept run => (run.session kept).finish) first

def latest (runs : List Run) (name : String) : Option Value :=
  runs.reverse.findSome? fun run => run.given name

theorem latestCons (run : Run) (rest : List Run) (name : String) :
    latest (run :: rest) name = (latest rest name).or (run.given name) := by
  rw [latest, List.reverse_cons, List.findSome?_append]
  rw [List.findSome?_cons]
  cases run.given name <;> rfl

theorem latestIsSome (runs : List Run) (name : String) :
    (latest runs name).isSome ↔ ∃ run ∈ runs, (run.given name).isSome := by
  rw [latest, List.findSome?_isSome_iff]
  simp only [List.mem_reverse]

theorem handedOnGet (first : Snapshot) (runs : List Run) (name : String) :
    (handedOn first runs).get? name = (latest runs name).or (first.get? name) := by
  induction runs generalizing first with
  | nil => rfl
  | cons run rest ih =>
    have later := ih (run.session first).finish
    rw [Run.finishGet] at later
    rw [latestCons, Option.or_assoc]
    exact later

theorem precedence (first : Snapshot) (earlier : List Run) (current : Run) (name : String) :
    let session := current.session (handedOn first earlier)
    session.store.get? name =
      (NameMap.lastOf current.assigned name).or
        ((NameMap.lastOf current.overridden name).or
          ((latest earlier name).or
            ((first.get? name).or (current.sources.value name)))) ∧
    session.store.merged.get? name = session.store.get? name ∧
    ((session.finish.get? name).isSome ↔
      (first.get? name).isSome ∨
        ∃ run ∈ earlier ++ [current], ∃ entry ∈ run.overridden ++ run.assigned, entry.1 = name) ∧
    (session.finish.get? name = none →
      session.store.get? name = current.sources.value name) := by
  intro session
  refine ⟨?_, Store.mergedGet session.store name, ?_, ?_⟩
  · rw [Store.get?, Run.runtimeGet, Run.keptGet, handedOnGet, Run.declaredGet,
      Sources.lastDeclared]
    simp only [Option.or_assoc]
  · have last : session.finish = handedOn first (earlier ++ [current]) := by
      rw [handedOn, List.foldl_append]
      rfl
    rw [last, handedOnGet, Option.isSome_or, Bool.or_eq_true, latestIsSome, or_comm]
    simp only [Run.givenIsSome]
  · intro absent
    rw [Store.getExported]
    rw [Session.finish] at absent
    rw [absent, Run.declaredGet, Sources.lastDeclared]
    rfl

end History

end RequestSuite
