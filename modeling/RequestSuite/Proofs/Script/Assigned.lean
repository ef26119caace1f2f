import RequestSuite.Proofs.Variable.Layers
import RequestSuite.Script.Prelude

/-! What a script before a request does to the variables. It only ever adds to the runtime layer,
and what it adds are the assignments of its lines in text order, each with its value coerced. -/
namespace RequestSuite.Script
open Text Variable

def Assignment.entry (assignment : Assignment) : String × Value :=
  (assignment.name, Value.coerce assignment.value)

def assignedByLine (line : List Char) : List (String × Value) :=
  match Setters.ofLine? line with
  | some setters => setters.assignments.map Assignment.entry
  | none => []

def assignedBy (script : String) : List (String × Value) :=
  (lines script.toList).flatMap assignedByLine

namespace Prelude

theorem assignFold (store : Store) (assignments : List Assignment) :
    assignments.foldl assign store = store.assignAll (assignments.map Assignment.entry) := by
  rw [← Store.assignAllFold, List.foldl_map]
  rfl

theorem lineStore (store : Store) (text : List Char) :
    (line store text).1 = store.assignAll (assignedByLine text) := by
  unfold line assignedByLine
  cases Setters.ofLine? text with
  | none => rfl
  | some setters => exact assignFold store setters.assignments

theorem readLinesStore (store : Store) (texts : List (List Char)) :
    (readLines store texts).1 = store.assignAll (texts.flatMap assignedByLine) := by
  induction texts generalizing store with
  | nil => rfl
  | cons text rest ih =>
    have first := lineStore store text
    have later := ih (line store text).1
    rw [List.flatMap_cons, Store.assignAllAppend, ← first, ← later]
    rfl

end Prelude

theorem assignedByEmpty : assignedBy "" = [] := by decide

theorem readPreludeStore (store : Store) (script : String) :
    (readPrelude store script).1 = store.assignAll (assignedBy script) := by
  unfold readPrelude
  split
  · rename_i empty
    have nothing : script = "" := by simpa using empty
    rw [nothing, assignedByEmpty]
    rfl
  · exact Prelude.readLinesStore store (lines script.toList)

end RequestSuite.Script
