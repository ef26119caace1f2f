import RequestSuite.Proofs.NameMap
import RequestSuite.Variable.Store

/-! The layers of a store after many settings. Each kind of setting touches one layer, and what a
name means is read off the layers in one order, the same for a look-up and for the merged map. -/
namespace RequestSuite.Variable.Store

def declareAll (store : Store) (entries : List (String × Value)) : Store :=
  { store with declared := store.declared.insertAll entries }

def keepAll (store : Store) (entries : List (String × Value)) : Store :=
  { store with kept := store.kept.insertAll entries }

def assignAll (store : Store) (entries : List (String × Value)) : Store :=
  { store with runtime := store.runtime.insertAll entries }

theorem declareAllFold (store : Store) (entries : List (String × Value)) :
    entries.foldl (fun found entry => found.declare entry.1 entry.2) store =
      store.declareAll entries :=
  List.foldl_hom (fun layer => { store with declared := layer }) (fun _ _ => rfl)

theorem keepAllFold (store : Store) (entries : List (String × Value)) :
    entries.foldl (fun found entry => found.keep entry.1 entry.2) store = store.keepAll entries :=
  List.foldl_hom (fun layer => { store with kept := layer }) (fun _ _ => rfl)

theorem assignAllFold (store : Store) (entries : List (String × Value)) :
    entries.foldl (fun found entry => found.assign entry.1 entry.2) store =
      store.assignAll entries :=
  List.foldl_hom (fun layer => { store with runtime := layer }) (fun _ _ => rfl)

theorem declareAllAppend (store : Store) (before after : List (String × Value)) :
    store.declareAll (before ++ after) = (store.declareAll before).declareAll after := by
  simp only [declareAll, NameMap.insertAll, List.foldl_append]

theorem assignAllAppend (store : Store) (before after : List (String × Value)) :
    store.assignAll (before ++ after) = (store.assignAll before).assignAll after := by
  simp only [assignAll, NameMap.insertAll, List.foldl_append]

theorem mergedGet (store : Store) (name : String) : store.merged.get? name = store.get? name := by
  rw [merged, NameMap.getExtend, NameMap.getExtend]
  rfl

theorem exportedGet (store : Store) (name : String) :
    store.exported.get? name = (store.runtime.get? name).or (store.kept.get? name) :=
  NameMap.getExtend store.kept store.runtime name

theorem getExported (store : Store) (name : String) :
    store.get? name = (store.exported.get? name).or (store.declared.get? name) := by
  rw [exportedGet, Option.or_assoc]
  rfl

end RequestSuite.Variable.Store
