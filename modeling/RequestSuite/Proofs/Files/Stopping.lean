import RequestSuite.Proofs.Files.Places

/-! Changes that stop before their end. The first that fails leaves the tree to those before it: a
file that cannot be written is not touched, and a directory that cannot be made below one that is
there leaves nothing. -/
namespace RequestSuite.Files
open Files.Path (IsPlain)

section
variable {α : Type} {parent : α → List String} {opens : α → List (List String)}

theorem Opened.front {dirs : List (List String)} {before after : List α}
    (opened : Opened parent opens dirs (before ++ after)) : Opened parent opens dirs before := by
  induction before generalizing dirs with
  | nil => exact .nil
  | cons first rest ih =>
    cases opened with
    | cons there later => exact .cons there (ih later)

theorem Opened.reached {dirs : List (List String)} {before after : List α} {next : α}
    (opened : Opened parent opens dirs (before ++ next :: after)) :
    parent next ∈ dirs ∨ ∃ earlier ∈ before, parent next ∈ opens earlier := by
  induction before generalizing dirs with
  | nil =>
    cases opened with
    | cons there later => exact .inl there
  | cons first rest ih =>
    cases opened with
    | cons there later =>
      rcases ih later with new | ⟨earlier, member, inside⟩
      · rcases List.mem_append.1 new with own | old
        · exact .inr ⟨first, List.mem_cons_self, own⟩
        · exact .inl old
      · exact .inr ⟨earlier, List.mem_cons_of_mem _ member, inside⟩

end

namespace Workspace

theorem makeAllStopped {before after : Workspace} {changes : List Change} {fault : Fault}
    (stopped : before.makeAll changes = (after, some fault)) :
    ∃ done change rest reached, changes = done ++ change :: rest ∧
      before.makeAll done = (reached, none) ∧ reached.make change = (after, some fault) := by
  induction changes generalizing before with
  | nil => cases stopped
  | cons change rest ih =>
    rw [makeAll] at stopped
    split at stopped
    · rename_i made first
      obtain ⟨done, next, others, reached, split, earlier, failed⟩ := ih stopped
      refine ⟨change :: done, next, others, reached, by rw [split]; rfl, ?_, failed⟩
      rw [makeAll, first]
      exact earlier
    · exact ⟨[], change, rest, before, rfl, rfl, stopped⟩

theorem makeAllAppendStopped {before after : Workspace} {changes rest : List Change}
    {fault : Fault} (stopped : before.makeAll (changes ++ rest) = (after, some fault)) :
    before.makeAll changes = (after, some fault) ∨
      ∃ reached, before.makeAll changes = (reached, none) ∧
        reached.makeAll rest = (after, some fault) := by
  rw [makeAllAppend] at stopped
  split at stopped
  · rename_i reached made
    exact .inr ⟨reached, made, stopped⟩
  · exact .inl stopped

theorem makeAllStuck {workspace : Workspace} {changes : List Change}
    (stuck : (workspace.makeAll changes).2 ≠ none) (rest : List Change) :
    workspace.makeAll (changes ++ rest) = workspace.makeAll changes := by
  rw [makeAllAppend]
  cases ended : workspace.makeAll changes with
  | mk after fault =>
    cases fault with
    | none =>
      rw [ended] at stuck
      contradiction
    | some fault => rfl

theorem placeStopped {before after : Workspace} {base : Path} {here : Location} {place : Place}
    {fault : Fault} (proper : place.IsProper)
    (leads : before.directoryAt (base.descend place.parent) = .ok here)
    (stopped : before.make (place.change base) = (after, some fault)) : after = before := by
  obtain ⟨names, text⟩ := place
  cases text with
  | some text =>
    rw [Place.change, make] at stopped
    split at stopped
    · cases stopped
    · exact (Prod.mk.inj stopped).1.symm
  | none =>
    obtain ⟨some, plain⟩ := proper
    obtain ⟨above, name, rfl⟩ := (List.eq_nil_or_concat' names).resolve_left some
    have last : IsPlain name := plain name (by simp)
    simp only [Place.parent, List.dropLast_concat] at leads
    have failed : before.makeDirectories ((base.descend above).child name) =
        (after, Option.some fault) := by
      rw [← Path.descendLast]
      exact stopped
    unfold makeDirectories ensureFrom at failed
    split at failed
    · cases failed
    · split at failed
      · cases failed
      · rename_i unfound
        rcases makeDirectoryFault unfound with lost | other
        · exact absurd lost (locateFound last leads)
        · cases other
      · exact (Prod.mk.inj failed).1.symm

/- The induction goes over the places; each one opens what it is, and keeps what was open. -/
theorem placesOpen {base : Path} {here : Location} {dirs : List (List String)}
    {places : List Place} (opened : Opened Place.parent Place.opens dirs places)
    {before after : Workspace} (proper : ∀ place ∈ places, place.IsProper)
    (leads : ∀ names ∈ dirs, before.directoryAt (base.descend names) = .ok (here ++ names))
    (done : before.makeAll (places.map (Place.change base)) = (after, none)) :
    ∀ place ∈ places, ∀ names ∈ place.opens,
      after.directoryAt (base.descend names) = .ok (here ++ names) := by
  induction opened generalizing before with
  | nil => exact List.forall_mem_nil _
  | @cons dirs place rest there later ih =>
    obtain ⟨made, first, last⟩ := makeAllStep done
    obtain ⟨own, others⟩ := List.forall_mem_cons.1 proper
    obtain ⟨-, below⟩ := placeMade own (leads _ there) first
    have opens : ∀ names ∈ place.opens ++ dirs,
        made.directoryAt (base.descend names) = .ok (here ++ names) := by
      rw [List.forall_mem_append]
      exact ⟨below, fun names old => (makeKeeps first).directoryAt (leads names old)⟩
    rw [List.forall_mem_cons]
    exact ⟨fun names new => (makeAllKeeps last).directoryAt (below names new),
      ih others opens last⟩

/- The directory of a place is there when its turn comes, so a place that fails leaves nothing. -/
theorem placeStuck {base : Path} {here : Location} {done rest : List Place} {place : Place}
    (opened : Opened Place.parent Place.opens [[]] (done ++ place :: rest))
    {before reached after : Workspace} {fault : Fault}
    (proper : ∀ other ∈ done ++ place :: rest, other.IsProper)
    (leads : before.directoryAt base = .ok here)
    (made : before.makeAll (done.map (Place.change base)) = (reached, none))
    (failed : reached.make (place.change base) = (after, some fault)) : after = reached := by
  obtain ⟨earlier, later⟩ := List.forall_mem_append.1 proper
  have below := placesOpen opened.front earlier (baseLeads leads) made
  have parent : reached.directoryAt (base.descend place.parent) = .ok (here ++ place.parent) := by
    rcases opened.reached with old | ⟨first, member, inside⟩
    · exact (makeAllKeeps made).directoryAt (baseLeads leads _ old)
    · exact below first member _ inside
  exact placeStopped (later place List.mem_cons_self) parent failed

theorem placesStopped {base : Path} {here : Location} {places : List Place}
    (opened : Opened Place.parent Place.opens [[]] places) {before after : Workspace}
    {fault : Fault} (proper : ∀ place ∈ places, place.IsProper)
    (leads : before.directoryAt base = .ok here) (distinct : (places.map Place.names).Nodup)
    (stopped : before.makeAll (places.map (Place.change base)) = (after, some fault)) :
    ∃ done rest, places = done ++ rest ∧ before.Gains after here done := by
  obtain ⟨early, change, late, reached, split, made, failed⟩ := makeAllStopped stopped
  obtain ⟨done, others, rfl, rfl, tail⟩ := List.map_eq_append_iff.1 split
  obtain ⟨place, rest, rfl, rfl, rfl⟩ := List.map_eq_cons_iff.1 tail
  rw [List.map_append] at distinct
  rw [placeStuck opened proper leads made failed]
  exact ⟨done, place :: rest, rfl, gainsPlaces opened.front (List.forall_mem_append.1 proper).1
    leads (List.nodup_append.1 distinct).1 made⟩

end Workspace

end RequestSuite.Files
