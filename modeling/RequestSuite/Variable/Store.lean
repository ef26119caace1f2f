import RequestSuite.Template.QueryHole
import RequestSuite.Variable.Value

/-! The variables of a run in three layers: those that collection, configuration and environment
declare, those kept from earlier runs, and those that scripts have set in this run. A later layer
hides an earlier one. -/
namespace RequestSuite.Variable

structure Store where
  declared : Snapshot
  kept : Snapshot
  runtime : Snapshot
  deriving DecidableEq, Repr

namespace Store

def empty : Store := ⟨.empty, .empty, .empty⟩

def load (kept : Snapshot) : Store := { empty with kept }

def declare (store : Store) (name : String) (value : Value) : Store :=
  { store with declared := store.declared.insert name value }

def keep (store : Store) (name : String) (value : Value) : Store :=
  { store with kept := store.kept.insert name value }

def assign (store : Store) (name : String) (value : Value) : Store :=
  { store with runtime := store.runtime.insert name value }

def get? (store : Store) (name : String) : Option Value :=
  (store.runtime.get? name).or ((store.kept.get? name).or (store.declared.get? name))

def merged (store : Store) : Snapshot := (store.declared.extend store.kept).extend store.runtime

/-- What the next run starts with: everything but the declared layer, which each run reads anew. -/
def exported (store : Store) : Snapshot := store.kept.extend store.runtime

def size (store : Store) : Nat := store.merged.size

def isEmpty (store : Store) : Bool :=
  store.declared.isEmpty && store.kept.isEmpty && store.runtime.isEmpty

def text? (store : Store) (name : String) : Option String := (store.get? name).map Value.display

def substitute (store : Store) (text : String) : String := Template.substitute store.text? text

end Store

namespace Snapshot

def fillQuery (snapshot : Snapshot) (url : String) : String :=
  if snapshot.isEmpty then url
  else Template.QueryHole.resolve (fun name => (snapshot.get? name).map Value.display) url

end Snapshot

end RequestSuite.Variable
