import RequestSuite.Proofs.Conversion.Written
import RequestSuite.Proofs.Files.Ways
import RequestSuite.Proofs.Suite.SpecImport

/-! Numbers and places. Every node of a tree takes one number, in the order of visits; the report
has one entry for each request with the number of its node, and its path goes through the
directories of the nodes above it. A browser test climbs back through exactly these to the module of
variables. -/
namespace RequestSuite.Conversion
open Files Variable Suite Text
open Collection (Visit Item)
open Files.Path (IsPlain)

namespace Job

theorem playVisits (job : Job) (collection : Collection) (kept : Snapshot) :
    (job.play collection kept).2.map Outcome.visit = collection.visits :=
  Session.takeAllVisits _ _

theorem playSound (job : Job) (collection : Collection) (kept : Snapshot) :
    ∀ outcome ∈ (job.play collection kept).2, outcome.Sound :=
  takeAllSound _ _

theorem playVisit {job : Job} {collection : Collection} {kept : Snapshot} {outcome : Outcome}
    (member : outcome ∈ (job.play collection kept).2) : outcome.visit ∈ collection.visits := by
  rw [← playVisits job collection kept]
  exact List.mem_map_of_mem member

theorem playPlain {job : Job} {collection : Collection} {kept : Snapshot} {outcome : Outcome}
    (member : outcome ∈ (job.play collection kept).2) :
    ∀ name ∈ outcome.visit.above, IsPlain name :=
  visitPlain (playVisit member)

theorem playCounted (job : Job) (collection : Collection) (kept : Snapshot) :
    ((job.play collection kept).2.map fun outcome => outcome.visit.number) =
      List.range collection.nodes.length := by
  have numbers : (job.play collection kept).2.map (fun outcome => outcome.visit.number) =
      collection.visits.map Visit.number := by
    rw [← playVisits job collection kept, List.map_map]
    rfl
  rw [numbers, Collection.visitsNumbers]

theorem playNumbers (job : Job) (collection : Collection) (kept : Snapshot) :
    ((job.play collection kept).2.map fun outcome => outcome.visit.number).Nodup := by
  rw [playCounted]
  exact List.nodup_range

end Job

theorem labelsPlaced (collection : Collection) (target : Target) :
    (collection.visits.filter fun visit => visit.item.isRequest).map (Visit.label target) =
      (collection.nodes.zipIdx.filter fun node => node.1.isRequest).map fun node =>
        ⟨node.2, node.1.name, collection.directories node.2 ++
          [Stem.numbered node.2 node.1.name ++ "." ++ target.extension]⟩ := by
  rw [Collection.visitsPlaced, List.filter_map, List.map_map]
  rfl

theorem importResolves {job : Job} {session : Session} {outcomes : List Outcome}
    {workspace after : Workspace} {outcome : Outcome} {location : Location}
    (done : workspace.makeAll (job.changes session outcomes) = (after, none))
    (plain : ∀ name ∈ outcome.visit.above, IsPlain name)
    (located : after.locate (job.output.descend (outcome.path job.target)) = .ok location) :
    after.locate (job.output.child "variables.js") =
      .ok (follow location.dropLast
        (Path.ofText (String.ofList (SpecFile.variablesPath outcome.visit.depth))).names) := by
  obtain ⟨⟨module_, found⟩, -⟩ := Job.leavesModule done
  obtain ⟨here, leads, rfl⟩ := Workspace.locateDescend (by simp [Outcome.path])
    (Outcome.pathPlain plain job.target) located
  obtain ⟨there, leads', rfl⟩ := Workspace.locateDescend (List.cons_ne_nil _ _)
    (Path.plainSingle Job.sharedNames.1) found
  cases leads.symm.trans leads'
  have upper : (here ++ outcome.path job.target).dropLast = here ++ outcome.visit.above := by
    rw [Outcome.path, ← List.append_assoc, List.dropLast_concat]
  rw [found, upper, SpecFile.pathNames, Visit.depth, climbBack here _ (by decide)]

theorem numbersAndPlaces {job : Job} {collection : Collection} {workspace after : Workspace}
    {report : Report} (done : job.run collection workspace = (after, .ok report)) :
    let placed := collection.nodes.zipIdx
    let directory := fun position => (Item.above 0 collection.nodes position).map fun folder =>
      Stem.numbered folder.2 folder.1.name
    (∀ node ∈ placed, Item.Stretch collection.nodes 0 node) ∧
      collection.visits = placed.map (fun node => ⟨node.2, directory node.2, node.1⟩) ∧
      report.entries.map Entry.label =
        (placed.filter fun node => node.1.isRequest).map (fun node =>
          ⟨node.2, node.1.name, directory node.2 ++
            [Stem.numbered node.2 node.1.name ++ "." ++ job.target.extension]⟩) ∧
      report.folders = collection.nodes.countP Item.isFolder ∧
      ∃ kept, Archive.read (workspace.makeDirectories job.output).1 job.archive = .ok kept ∧
        (job.target = .playwright → ∀ entry ∈ report.entries, entry.isSuccess = true →
          ∃ text way location,
            job.Leaves (job.changes (job.play collection kept).1 (job.play collection kept).2)
              after entry.path text ∧
            (lines text.toList)[1]? =
              some ("import \x7b variables \x7d from '".toList ++ (way ++ "';".toList)) ∧
            (Path.ofText (String.ofList way)).names =
              List.replicate (entry.path.length - 1) ".." ++ ["variables.js"] ∧
            after.locate (job.output.descend entry.path) = .ok location ∧
            after.locate (job.output.child "variables.js") =
              .ok (follow location.dropLast (Path.ofText (String.ofList way)).names)) := by
  intro placed directory
  obtain ⟨made, kept, ready, loaded, finished, rfl⟩ := runDone done
  have sound := job.playSound collection kept
  have visits := job.playVisits collection kept
  refine ⟨?_, ?_, ?_, ?_, kept, by rw [ready]; exact loaded, ?_⟩
  · exact Item.stretchForest 0 collection.rootItems
  · exact collection.visitsPlaced
  · rw [Report.ofRun, entriesLabels sound, visits]
    exact labelsPlaced collection job.target
  · rw [Report.ofRun, foldersCount sound, ← collection.visitsItems, ← visits, List.map_map]
    rfl
  · intro target entry member success
    obtain ⟨outcome, inside, found⟩ := List.mem_filterMap.1 member
    obtain ⟨-, same, resolved, -⟩ := Outcome.entrySource found
    obtain ⟨artifacts, written⟩ := resolved success
    have plain := Job.playPlain inside
    have leaves := Job.leavesTest finished (fun other there => Job.playPlain there)
      (job.playNumbers collection kept) inside written
    obtain ⟨location, located⟩ := leaves.located
    have levels : entry.path.length - 1 = outcome.visit.depth := by
      rw [same, Outcome.path, List.length_append]
      rfl
    rw [levels, same]
    refine ⟨_, SpecFile.variablesPath outcome.visit.depth, location, leaves, ?_,
      SpecFile.pathNames _, located, importResolves finished plain located⟩
    rw [target]
    exact SpecFile.importSecond outcome.visit.depth artifacts

theorem runEnds {job : Job} {collection : Collection} {workspace : Workspace} {α : Type}
    (tell : Report → α) {told : α}
    (ended : (job.run collection workspace).2.toOption.map tell = some told) :
    ∃ after report, job.run collection workspace = (after, .ok report) ∧ tell report = told := by
  cases run : job.run collection workspace with
  | mk after answer =>
    rw [run] at ended
    cases answer with
    | error failure => contradiction
    | ok report => exact ⟨after, report, rfl, Option.some.inj ended⟩

def browserJob : Job := ⟨.playwright, .ofText "out", .default, fun _ => none, none, []⟩

theorem browserEnds : ∃ after report, browserJob.run chained ⟨[], []⟩ = (after, .ok report) ∧
    (report.failed, report.entries.map Entry.number) = (1, [1, 2, 3]) :=
  runEnds (fun report => (report.failed, report.entries.map Entry.number)) (by decide +kernel)

theorem failedRequestTakesNumber :
    ∃ after report, browserJob.run chained ⟨[], []⟩ = (after, .ok report) ∧ report.folders = 1 ∧
      report.entries.map Entry.label =
        [⟨1, "first", ["000_folder", "001_first.spec.js"]⟩, ⟨2, "broken", ["002_broken.spec.js"]⟩,
          ⟨3, "last", ["003_last.spec.js"]⟩] := by
  obtain ⟨after, report, done, -⟩ := browserEnds
  obtain ⟨-, -, labels, folders, -⟩ := numbersAndPlaces done
  refine ⟨after, report, done, folders, labels.trans ?_⟩
  decide +kernel

end RequestSuite.Conversion
