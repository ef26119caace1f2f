import RequestSuite.Proofs.Conversion.Layout
import RequestSuite.Proofs.Text.NameOrder

/-! The order of the entries of a directory. Folders and tests are named in the order of visits, and
a directory lists them by the bytes of their names. The two orders agree for as long as the numbers
are written with equally many digits, so in every tree of up to a thousand nodes; from there on a
later entry comes first if the first digits of its number are not above the number before. -/
namespace RequestSuite.Conversion
open Files Variable Suite Text
open Collection (Visit Item)

namespace Outcome

def entryIn? (target : Target) (directory : List String) (outcome : Outcome) :
    Option (Nat × String) := do
  let place ← outcome.place? target
  let name ← place.names.getLast?
  if place.parent = directory then some (outcome.visit.number, name) else none

theorem placeNamed {target : Target} {outcome : Outcome} {place : Place}
    (found : outcome.place? target = some place) :
    ∃ ending, place.names.getLast? =
      some (Stem.numbered outcome.visit.number outcome.visit.item.name ++ ending) := by
  unfold place? at found
  split at found
  · cases found
    exact ⟨"", by rw [List.getLast?_concat, String.append_empty]; rfl⟩
  · cases found
    exact ⟨"." ++ target.extension, by rw [path, List.getLast?_concat, ← String.append_assoc]; rfl⟩
  · contradiction

theorem entryNamed {target : Target} {directory : List String} {outcome : Outcome}
    {entry : Nat × String} (found : outcome.entryIn? target directory = some entry) :
    entry.1 = outcome.visit.number ∧
      ∃ name ending, entry.2 = Stem.numbered entry.1 name ++ ending := by
  obtain ⟨place, placed, rest⟩ := Option.bind_eq_some_iff.1 found
  obtain ⟨name, last, within⟩ := Option.bind_eq_some_iff.1 rest
  obtain ⟨ending, named⟩ := placeNamed placed
  obtain rfl := Option.some.inj (last.symm.trans named)
  split at within
  · cases within
    exact ⟨rfl, _, ending, rfl⟩
  · contradiction

end Outcome

def entriesIn (target : Target) (directory : List String) (outcomes : List Outcome) :
    List (Nat × String) := outcomes.filterMap (Outcome.entryIn? target directory)

theorem entriesNamed {target : Target} {directory : List String} {outcomes : List Outcome}
    {entry : Nat × String} (member : entry ∈ entriesIn target directory outcomes) :
    (∃ outcome ∈ outcomes, entry.1 = outcome.visit.number) ∧
      ∃ name ending, entry.2 = Stem.numbered entry.1 name ++ ending := by
  obtain ⟨outcome, inside, found⟩ := List.mem_filterMap.1 member
  obtain ⟨number, named⟩ := Outcome.entryNamed found
  exact ⟨⟨outcome, inside, number⟩, named⟩

theorem entriesBelow {target : Target} {directory : List String} {outcomes : List Outcome}
    {count : Nat}
    (numbers : (outcomes.map fun outcome => outcome.visit.number) = List.range count)
    {entry : Nat × String} (member : entry ∈ entriesIn target directory outcomes) :
    entry.1 < count := by
  obtain ⟨⟨outcome, inside, same⟩, -⟩ := entriesNamed member
  have counted := List.mem_map_of_mem (f := fun outcome => outcome.visit.number) inside
  rwa [numbers, List.mem_range, ← same] at counted

theorem entriesAscend (target : Target) (directory : List String) {outcomes : List Outcome}
    (ascend : (outcomes.map fun outcome => outcome.visit.number).Pairwise (· < ·)) :
    (entriesIn target directory outcomes).Pairwise fun first second => first.1 < second.1 := by
  refine (List.pairwise_map.1 ascend).filterMap _ ?_
  intro outcome other less first found second found'
  rw [(Outcome.entryNamed found).1, (Outcome.entryNamed found').1]
  exact less

theorem entriesCompared {target : Target} {directory : List String} {outcomes : List Outcome}
    (ascend : (outcomes.map fun outcome => outcome.visit.number).Pairwise (· < ·)) :
    (entriesIn target directory outcomes).Pairwise fun first second =>
      Stem.ByteBefore first.2 second.2 ↔ Stem.KeepsOrder first.1 second.1 := by
  refine (entriesAscend target directory ascend).imp_of_mem ?_
  intro first second member member' less
  obtain ⟨-, name, ending, same⟩ := entriesNamed member
  obtain ⟨-, title, tail, same'⟩ := entriesNamed member'
  rw [same, same']
  exact Stem.namesOrder less name title ending tail

theorem pairwiseAgree {α : Type} {first second : α → α → Prop} {values : List α}
    (agree : values.Pairwise fun a b => first a b ↔ second a b) :
    values.Pairwise first ↔ values.Pairwise second :=
  ⟨fun holds => (agree.and holds).imp fun both => both.1.1 both.2,
    fun holds => (agree.and holds).imp fun both => both.1.2 both.2⟩

theorem fileOrder {job : Job} {collection : Collection} {workspace after : Workspace}
    {report : Report} (done : job.run collection workspace = (after, .ok report)) :
    ∃ made kept, workspace.makeDirectories job.output = (made, none) ∧
      Archive.read made job.archive = .ok kept ∧
      let session := (job.play collection kept).1
      let outcomes := (job.play collection kept).2
      let nodes := outcomes.filterMap (Outcome.place? job.target)
      outcomes.map Outcome.visit = collection.visits ∧
      made.makeAll (nodes.map (Place.change job.output) ++ job.lastChanges session) =
        (after, none) ∧
      ∀ directory,
        let entries := entriesIn job.target directory outcomes
        (entries.map Prod.fst).Pairwise (· < ·) ∧
          ((entries.map Prod.snd).Pairwise Stem.ByteBefore ↔
            (entries.map Prod.fst).Pairwise Stem.KeepsOrder) ∧
          (collection.nodes.length ≤ 1000 → (entries.map Prod.snd).Pairwise Stem.ByteBefore) := by
  obtain ⟨made, kept, ready, loaded, finished, -⟩ := runDone done
  refine ⟨made, kept, ready, loaded, job.playVisits collection kept, ?_, ?_⟩
  · rw [← job.nodesPlaces]
    exact finished
  intro directory entries
  have numbers := job.playCounted collection kept
  have ascend : ((job.play collection kept).2.map fun outcome => outcome.visit.number).Pairwise
      (· < ·) := by
    rw [numbers]
    exact List.pairwise_lt_range
  have agree : (entries.map Prod.snd).Pairwise Stem.ByteBefore ↔
      (entries.map Prod.fst).Pairwise Stem.KeepsOrder := by
    rw [List.pairwise_map, List.pairwise_map]
    exact pairwiseAgree (entriesCompared ascend)
  have listed := entriesAscend job.target directory ascend
  refine ⟨List.pairwise_map.2 listed, agree, ?_⟩
  intro few
  have small : ∀ entry ∈ entries, entry.1 < 1000 :=
    fun entry member => (entriesBelow numbers member).trans_le few
  refine agree.2 (List.pairwise_map.2 (listed.imp_of_mem ?_))
  intro first second member member' less
  refine Stem.widthKeepsOrder less ?_
  rw [Stem.smallWidth (small first member), Stem.smallWidth (small second member')]

theorem folderBeforeLast :
    ∃ after report, browserJob.run chained ⟨[], []⟩ = (after, .ok report) ∧
      chained.nodes.length ≤ 1000 ∧ ∃ names : List String,
        names = (entriesIn browserJob.target [] (browserJob.play chained .empty).2).map Prod.snd ∧
        names = ["000_folder", "003_last.spec.js"] ∧ names.Pairwise Stem.ByteBefore := by
  obtain ⟨after, report, done, -⟩ := browserEnds
  obtain ⟨made, kept, ready, loaded, -, -, listed⟩ := fileOrder done
  have vacant := freshOutput
  rw [ready] at vacant
  rw [Job.usualArchive rfl] at loaded
  obtain rfl := keptEmpty vacant Job.keptPlain loaded
  obtain ⟨-, -, small⟩ := listed []
  have few : chained.nodes.length ≤ 1000 := by decide
  refine ⟨after, report, done, few, _, rfl, ?_, small few⟩
  decide +kernel

def planJob : Job := ⟨.jmeter, .ofText "out", .default, fun _ => none, none, []⟩

def fullCollection : Collection :=
  ⟨"full", some (List.replicate 999 (.node "" none none []) ++
    [.node "first" none (some .plain) [], .node "second" none (some .plain) []]), []⟩

theorem thousandthComesFirst :
    ∃ after report, planJob.run fullCollection ⟨[], []⟩ = (after, .ok report) ∧
      report.entries.map (fun entry => (entry.number, entry.path, entry.isSuccess)) =
        [(999, ["999_first.jmx"], true), (1000, ["1000_second.jmx"], true)] ∧
      (∀ name ∈ ["999_first.jmx", "1000_second.jmx"],
        (after.entry? ["out", name]).isSome = true) ∧
      Stem.ByteBefore "1000_second.jmx" "999_first.jmx" := by
  have ended : (planJob.run fullCollection ⟨[], []⟩).2.toOption.map
      (fun report => report.entries.map fun entry => (entry.number, entry.path, entry.isSuccess)) =
        some [(999, ["999_first.jmx"], true), (1000, ["1000_second.jmx"], true)] := by
    decide +kernel
  have left : ∀ name ∈ ["999_first.jmx", "1000_second.jmx"],
      (Workspace.entry? (planJob.run fullCollection ⟨[], []⟩).1 ["out", name]).isSome = true := by
    decide +kernel
  obtain ⟨after, report, done, told⟩ := runEnds _ ended
  rw [done] at left
  exact ⟨after, report, done, told, left, by decide⟩

end RequestSuite.Conversion
