import RequestSuite.Proofs.Json.NumberForms
import RequestSuite.Proofs.Script.Assigned
import RequestSuite.Proofs.Script.SetterScan
import RequestSuite.Proofs.Variable.RoundTrip

/-! Scripts before a request that are joined by a line feed. They act like the two one after the
other: the store goes through the lines of the first and then those of the second, every line
without a setter is copied as it is, and the declaration at the end tells the runtime layer that is
reached. -/
namespace RequestSuite.Script
open Text Variable

namespace Setter

theorem silentUncounted {line : List Char} : Silent line ↔ countCalls line = 0 := by
  refine ⟨countCallsSilent, ?_⟩
  intro none word known
  refine Bool.eq_false_iff.2 fun found => ?_
  obtain ⟨⟨before, after⟩, cut⟩ := Option.isSome_iff_exists.1 found
  rw [countPlaces 0, List.length_eq_zero_iff] at none
  have called : bytes before ∈ callPlaces 0 line :=
    memCallPlaces.2 ⟨before, word, after, known, splitOnceText cut, (Nat.zero_add _).symm⟩
  rw [none] at called
  exact List.not_mem_nil called

end Setter

def isForeign (line : List Char) : Bool := Setter.calls.all fun word => !contains word line

def passed (script : String) : List Char :=
  ((lines script.toList).filter isForeign).flatMap fun line => ' ' :: ' ' :: (line ++ ['\n'])

theorem foreignLine (line : List Char) : isForeign line = (Setters.ofLine? line).isNone := by
  have silent : isForeign line = true ↔ Setter.countCalls line = 0 := by
    rw [← Setter.silentUncounted, isForeign, List.all_eq_true]
    simp only [Setter.Silent, Bool.not_eq_true']
  rw [Bool.eq_iff_iff, silent, Setters.ofLine?]
  by_cases none : Setter.countCalls line = 0 <;> simp [none]

theorem linesJoined (before after : String) :
    lines (before ++ "\n" ++ after).toList = lines before.toList ++ lines after.toList := by
  rw [String.toList_append, String.toList_append, List.append_assoc]
  exact splitAtAppend '\n' before.toList after.toList

theorem assignedByJoined (before after : String) :
    assignedBy (before ++ "\n" ++ after) = assignedBy before ++ assignedBy after := by
  rw [assignedBy, linesJoined, List.flatMap_append]
  rfl

theorem passedJoined (before after : String) :
    passed (before ++ "\n" ++ after) = passed before ++ passed after := by
  rw [passed, linesJoined, List.filter_append, List.flatMap_append]
  rfl

namespace Prelude

theorem lineCopies (store : Store) (text : List Char) :
    (line store text).2 = if isForeign text then ' ' :: ' ' :: (text ++ ['\n']) else [] := by
  rw [foreignLine, line]
  cases Setters.ofLine? text <;> rfl

/- What is copied depends on the lines only, not on the store that they meet. -/
theorem readLinesCopies (store : Store) (texts : List (List Char)) :
    (readLines store texts).2 =
      (texts.filter isForeign).flatMap fun line => ' ' :: ' ' :: (line ++ ['\n']) := by
  induction texts generalizing store with
  | nil => rfl
  | cons text rest ih =>
    have first := lineCopies store text
    have later := ih (line store text).1
    have copied : (readLines store (text :: rest)).2 =
        (line store text).2 ++ (readLines (line store text).1 rest).2 := rfl
    rw [copied, first, later, List.filter_cons]
    split
    · rw [List.flatMap_cons]
    · rfl

end Prelude

theorem readPreludeCopies (store : Store) {script : String} (filled : script ≠ "") :
    (readPrelude store script).2 =
      String.ofList (Prelude.header ++ passed script ++
        Prelude.declaration (readPrelude store script).1) := by
  have some : script.isEmpty = false := by simpa using filled
  have copied := Prelude.readLinesCopies store (lines script.toList)
  simp only [readPrelude, some, Bool.false_eq_true, if_false]
  rw [copied]
  rfl

theorem runtimeKept (store : Store) (script : String) {name : String}
    (unassigned : name ∉ (assignedBy script).map Prod.fst) :
    (readPrelude store script).1.runtime.get? name = store.runtime.get? name := by
  have absent : NameMap.lastOf (assignedBy script) name = none := by
    refine Option.not_isSome_iff_eq_none.1 fun found => unassigned ?_
    obtain ⟨entry, member, same⟩ := (NameMap.lastOfIsSome _ _).1 found
    exact List.mem_map.2 ⟨entry, member, same⟩
  rw [readPreludeStore]
  exact (NameMap.getInsertAll _ _ name).trans (by rw [absent, Option.none_or])

theorem membersAscend (snapshot : Snapshot) :
    ((membersJson snapshot.entries).map Prod.fst).Pairwise (· < ·) := by
  rw [membersJson, List.map_map]
  exact List.pairwise_map.2 snapshot.sorted

theorem memMembers (snapshot : Snapshot) (name : String) (told : Json.Value) :
    (name, told) ∈ membersJson snapshot.entries ↔
      ∃ value, snapshot.get? name = some value ∧ told = value.toJson := by
  constructor
  · intro member
    obtain ⟨⟨key, value⟩, known, same⟩ := List.mem_map.1 member
    obtain ⟨rfl, rfl⟩ := Prod.mk.inj same
    exact ⟨value, (NameMap.memIffGet snapshot _).1 known, rfl⟩
  · rintro ⟨value, known, rfl⟩
    exact List.mem_map.2 ⟨(name, value), (NameMap.memIffGet snapshot _).2 known, rfl⟩

theorem joinedScripts (store : Store) (a : String) {b : String} (filled : b ≠ "") :
    let first := (readPrelude store a).1
    let last := (readPrelude first b).1
    let members := membersJson last.runtime.entries
    let json := (Json.Value.object members).prettyChars 0
    let declaration := "  const prerequest_variables = ".toList ++ json ++ ['\n']
    (readPrelude store (a ++ "\n" ++ b)).1 = last ∧
      (readPrelude store (a ++ "\n" ++ b)).2 =
        String.ofList (Prelude.header ++ passed a ++ passed b ++ declaration) ∧
      (readPrelude first b).2 = String.ofList (Prelude.header ++ passed b ++ declaration) ∧
      Json.Tree.ofText? json = some (Json.Value.object members).toTree ∧
      (members.map Prod.fst).Pairwise (· < ·) ∧
      (∀ name told, (name, told) ∈ members ↔
        ∃ value, last.runtime.get? name = some value ∧ told = value.toJson) ∧
      last.declared = store.declared ∧ last.kept = store.kept ∧
      ∀ name ∉ (assignedBy a ++ assignedBy b).map Prod.fst,
        last.runtime.get? name = store.runtime.get? name := by
  intro first last members json declaration
  have joined : (readPrelude store (a ++ "\n" ++ b)).1 = last := by
    rw [readPreludeStore, assignedByJoined, Store.assignAllAppend, ← readPreludeStore,
      ← readPreludeStore]
  have broken : a ++ "\n" ++ b ≠ "" := by
    intro empty
    have texts := congrArg String.toList empty
    simp at texts
  have copies := readPreludeCopies store broken
  rw [joined, passedJoined, ← List.append_assoc] at copies
  refine ⟨joined, copies, readPreludeCopies first filled, Json.Value.prettyTree _ 0,
    membersAscend last.runtime, memMembers last.runtime, ?_, ?_, ?_⟩
  · rw [← joined, readPreludeStore]
    rfl
  · rw [← joined, readPreludeStore]
    rfl
  · intro name unassigned
    rw [List.map_append, List.mem_append, not_or] at unassigned
    exact (runtimeKept first b unassigned.2).trans (runtimeKept store a unassigned.1)

def assigningScript : String :=
  "pm.globals.set('b', 1); pm.environment.set('a', 'x');\n  let d = 2;\r\n"

def sendingScript : String := "pm.variables.set(k, 2);\npm.variables.set('b', 3);\nsend(d)"

theorem joinedRead :
    sendingScript ≠ "" ∧
      (readPrelude .empty (assigningScript ++ "\n" ++ sendingScript)).2 =
        "  // Pre-request Script\n    let d = 2;\r\n  \n  send(d)\n" ++
          "  const prerequest_variables = \x7b\n  \"a\": \"x\",\n  \"b\": 3\n\x7d\n" := by
  have filled : sendingScript ≠ "" := by decide
  obtain ⟨-, copies, -⟩ := joinedScripts .empty assigningScript filled
  refine ⟨filled, copies.trans ?_⟩
  decide +kernel

end RequestSuite.Script
