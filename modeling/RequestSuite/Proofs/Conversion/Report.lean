import RequestSuite.Proofs.Collection.Positions
import RequestSuite.Proofs.Conversion.Walk

/-! What a report says of a tree. Its entries are the request nodes, failed or not, and their
numbers, names and paths are those of the visits; nothing in a session or a target but the extension
has a part in them. -/
namespace RequestSuite.Conversion
open Collection (Visit Item)

structure Label where
  number : Nat
  name : String
  path : List String
  deriving DecidableEq, Repr

def Entry.label (entry : Entry) : Label := ⟨entry.number, entry.name, entry.path⟩

end RequestSuite.Conversion

namespace RequestSuite.Collection
open Conversion Suite

def Item.isRequest (item : Item) : Bool := item.requestNode?.isSome

def Visit.file (target : Target) (visit : Visit) : String := visit.stem ++ "." ++ target.extension

def Visit.label (target : Target) (visit : Visit) : Label :=
  ⟨visit.number, visit.item.name, visit.above ++ [visit.file target]⟩

end RequestSuite.Collection

namespace RequestSuite.Conversion
open Collection (Visit Item)
open Suite

inductive Outcome.Sound : Outcome → Prop where
  | folder {visit} (folder : visit.item.isFolder = true) : Sound ⟨visit, .folder⟩
  | written {visit artifacts} (leaf : visit.item.isFolder = false)
      (node : visit.item.isRequest = true) (name : artifacts.name = visit.item.name) :
      Sound ⟨visit, .written artifacts⟩
  | failed {visit request missing} (leaf : visit.item.isFolder = false)
      (node : visit.item.isRequest = true) : Sound ⟨visit, .failed request missing⟩
  | nothing {visit} (leaf : visit.item.isFolder = false) (other : visit.item.isRequest = false) :
      Sound ⟨visit, .nothing⟩

theorem takeSound (session : Session) (visit : Visit) :
    Outcome.Sound ⟨visit, (session.take visit).2⟩ := by
  cases folder : visit.item.isFolder with
  | true =>
    have taken : (session.take visit).2 = .folder := by rw [Session.take, if_pos folder]
    rw [taken]
    exact .folder folder
  | false =>
    cases wanted : visit.item.request with
    | none =>
      have taken : (session.take visit).2 = .nothing := by simp [Session.take, folder, wanted]
      rw [taken]
      exact .nothing folder (by simp [Item.isRequest, Item.requestNode?, folder, wanted])
    | some request =>
      have kind : visit.item.requestNode? = some (visit.item, request) := by
        simp [Item.requestNode?, folder, wanted]
      have node : visit.item.isRequest = true := by rw [Item.isRequest, kind]; rfl
      obtain ⟨prelude, tests, answer⟩ := session.processResult visit.item request
      rw [(session.takeProcess kind).2, answer]
      cases Request.resolve (session.store.assignAll visit.item.assigned) request with
      | ok resolved => exact .written folder node rfl
      | error missing => exact .failed folder node

theorem takeAllSound (session : Session) (visits : List Visit) :
    ∀ outcome ∈ (session.takeAll visits).2, outcome.Sound := by
  induction visits generalizing session with
  | nil => simp [Session.takeAll]
  | cons visit rest ih =>
    intro outcome member
    rw [Session.takeAllCons] at member
    rcases List.mem_cons.1 member with rfl | later
    · exact takeSound session visit
    · exact ih _ outcome later

namespace Outcome

theorem Sound.entry {outcome : Outcome} (sound : outcome.Sound) (target : Target) :
    (outcome.entry? target).map Entry.label =
      if outcome.visit.item.isRequest then some (outcome.visit.label target) else none := by
  cases sound with
  | @folder visit folder =>
    have other : visit.item.isRequest = false := by
      simp [Item.isRequest, Item.requestNode?, folder]
    rw [other]
    rfl
  | written leaf node name =>
    rw [node]
    simp only [Outcome.entry?, Option.map_some, Entry.label, name]
    rfl
  | failed leaf node =>
    rw [node]
    rfl
  | nothing leaf other =>
    rw [other]
    rfl

theorem entrySource {target : Target} {outcome : Outcome} {entry : Entry}
    (found : outcome.entry? target = some entry) :
    entry.number = outcome.visit.number ∧ entry.path = outcome.path target ∧
      (entry.isSuccess = true → ∃ artifacts, outcome.result = .written artifacts) ∧
      (entry.isSuccess = false → ∃ request missing, outcome.result = .failed request missing) := by
  unfold entry? at found
  split at found
  · rename_i artifacts written
    cases found
    exact ⟨rfl, rfl, fun _ => ⟨artifacts, written⟩, nofun⟩
  · rename_i request missing failed
    cases found
    exact ⟨rfl, rfl, nofun, fun _ => ⟨request, missing, failed⟩⟩
  · contradiction

theorem Sound.entryLeaf {outcome : Outcome} (sound : outcome.Sound) {target : Target}
    {entry : Entry} (found : outcome.entry? target = some entry) : outcome.visit.item.isFolder = false := by
  cases sound with
  | folder folder => contradiction
  | written leaf node name => exact leaf
  | failed leaf node => exact leaf
  | nothing leaf other => exact leaf

theorem Sound.isFolder {outcome : Outcome} (sound : outcome.Sound) :
    outcome.isFolder = outcome.visit.item.isFolder := by
  cases sound with
  | folder folder => exact folder.symm
  | written leaf node name => exact leaf.symm
  | failed leaf node => exact leaf.symm
  | nothing leaf other => exact leaf.symm

end Outcome

theorem entriesLabels {outcomes : List Outcome} (sound : ∀ outcome ∈ outcomes, outcome.Sound)
    (target : Target) :
    (outcomes.filterMap (Outcome.entry? target)).map Entry.label =
      ((outcomes.map Outcome.visit).filter fun visit => visit.item.isRequest).map
        (Visit.label target) := by
  induction outcomes with
  | nil => rfl
  | cons outcome rest ih =>
    obtain ⟨first, others⟩ := List.forall_mem_cons.1 sound
    have label := first.entry target
    rw [List.map_cons]
    cases found : outcome.entry? target with
    | none =>
      rw [found] at label
      have other : outcome.visit.item.isRequest = false := by
        by_contra node
        simp [node] at label
      rw [List.filterMap_cons_none found, List.filter_cons, if_neg (by simp [other]), ih others]
    | some entry =>
      rw [found] at label
      have node : outcome.visit.item.isRequest = true := by
        by_contra other
        simp [other] at label
      rw [if_pos node] at label
      rw [List.filterMap_cons_some found, List.filter_cons, if_pos node, List.map_cons, ih others,
        List.map_cons, ← Option.some.inj label]

theorem foldersCount {outcomes : List Outcome} (sound : ∀ outcome ∈ outcomes, outcome.Sound) :
    outcomes.countP Outcome.isFolder =
      (outcomes.map fun outcome => outcome.visit.item).countP Item.isFolder := by
  rw [List.countP_map]
  apply List.countP_congr
  intro outcome member
  rw [(sound outcome member).isFolder]
  rfl

end RequestSuite.Conversion
