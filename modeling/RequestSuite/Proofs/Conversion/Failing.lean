import RequestSuite.Proofs.Conversion.Layout
import RequestSuite.Proofs.Files.Stopping
import RequestSuite.Proofs.Files.Ways

/-! Runs that end with a failure. The files shared by the tests are written last and bear no number,
so a run that ends before it comes to them has not touched them; what it has written are the tests
of the nodes before the one that stopped it. -/
namespace RequestSuite.Conversion
open Files Variable Suite Text
open Collection (Visit Item)
open Files.Path (IsPlain)

namespace Job

def sharedFiles : List String := ["variables.json", "variables.js", "package.json"]

theorem sharedFilesUnnumbered : ∀ name ∈ sharedFiles, Stem.number? name = none := by decide

def outputAt (job : Job) (workspace : Workspace) : Location :=
  follow (workspace.origin job.output) job.output.names

/- No file with a shared name has come, gone or changed. A directory with such a name can have come
only if the path of the output directory leads through it and back. -/
structure Intact (job : Job) (before after : Workspace) : Prop where
  files : ∀ name ∈ sharedFiles, ∀ above content,
    after.entry? (above ++ [name]) = some (.file content) ↔
      before.entry? (above ++ [name]) = some (.file content)
  straight : ".." ∉ job.output.names → ∀ name ∈ sharedFiles,
    after.entry? (job.outputAt before ++ [name]) = before.entry? (job.outputAt before ++ [name])

theorem Intact.trans {job : Job} {first second third : Workspace} (early : job.Intact first second)
    (late : job.Intact second third) (current : second.current = first.current) :
    job.Intact first third := by
  have same : job.outputAt second = job.outputAt first := by
    rw [outputAt, outputAt, Workspace.origin, Workspace.origin, current]
  constructor
  · intro name member above content
    exact (late.files name member above content).trans (early.files name member above content)
  · intro plain name member
    have later := late.straight plain name member
    rw [same] at later
    exact later.trans (early.straight plain name member)

theorem intactWay {job : Job} {before after : Workspace}
    (adds : Workspace.AddsDirectories before after) (way : before.AlongWay job.output after) :
    job.Intact before after := by
  constructor
  · intro name member above content
    exact adds.files (above ++ [name]) content
  · intro plain name member
    by_contra changed
    obtain ⟨names, front, same⟩ := way _ changed
    have inside : ".." ∉ names := fun up => plain (front.subset up)
    rw [outputAt, followPlain _ plain, followPlain _ inside, List.append_assoc] at same
    have longer := congrArg List.length (List.append_cancel_left same)
    have shorter := front.length_le
    rw [List.length_append, List.length_singleton] at longer
    omega

theorem gainedApart {before after : Workspace} {here : Location} {places : List Place}
    (gains : before.Gains after here places) {location : Location}
    (apart : ∀ place ∈ places, lastNumber? place.names ≠ lastNumber? location) :
    after.entry? location = before.entry? location := by
  apply gains.others
  rintro place member rfl
  obtain ⟨above, name, split⟩ :=
    (List.eq_nil_or_concat' place.names).resolve_left (gains.below place member).1
  apply apart place member
  rw [split, ← List.append_assoc, lastNumber?, lastNumber?, List.getLast?_concat,
    List.getLast?_concat]

theorem intactGains {job : Job} {before after : Workspace} {here : Location} {places : List Place}
    (gains : before.Gains after here places)
    (numbered : ∀ place ∈ places, lastNumber? place.names ≠ none) : job.Intact before after := by
  have same : ∀ name ∈ sharedFiles, ∀ above,
      after.entry? (above ++ [name]) = before.entry? (above ++ [name]) := by
    intro name member above
    apply gainedApart gains
    intro place placed
    rw [lastNumber?, lastNumber?, List.getLast?_concat, Option.bind_some,
      sharedFilesUnnumbered name member]
    exact numbered place placed
  exact ⟨fun name member above content => by rw [same name member above],
    fun _ name member => same name member _⟩

structure Ready (job : Job) (workspace made : Workspace) : Prop where
  done : workspace.makeDirectories job.output = (made, none)
  leads : made.directoryAt job.output = .ok (job.outputAt workspace)

theorem outputReady {job : Job} {workspace made : Workspace}
    (done : workspace.makeDirectories job.output = (made, none)) : job.Ready workspace made := by
  obtain ⟨here, leads⟩ := Workspace.makeDirectoriesLeads done
  have adds := workspace.makeDirectoriesAdds job.output
  rw [done] at adds
  refine ⟨done, ?_⟩
  rw [leads, Workspace.directoryFollow leads, adds.keeps.origin]
  rfl

theorem outputIntact (job : Job) (workspace : Workspace) :
    job.Intact workspace (workspace.makeDirectories job.output).1 :=
  intactWay (workspace.makeDirectoriesAdds job.output) (workspace.makeDirectoriesWay job.output)

end Job

theorem nodesNumbered {target : Target} {outcomes : List Outcome} {place : Place}
    (member : place ∈ outcomes.filterMap (Outcome.place? target)) :
    ∃ outcome ∈ outcomes, lastNumber? place.names = some outcome.visit.number := by
  obtain ⟨outcome, inside, found⟩ := List.mem_filterMap.1 member
  exact ⟨outcome, inside, Outcome.placeNumber found⟩

theorem nodesSomeNumber (target : Target) (outcomes : List Outcome) :
    ∀ place ∈ outcomes.filterMap (Outcome.place? target), lastNumber? place.names ≠ none := by
  intro place member
  obtain ⟨outcome, -, number⟩ := nodesNumbered member
  simp [number]

theorem frontGains {job : Job} {collection : Collection} {kept : Snapshot}
    {workspace made after : Workspace} {before rest : List Outcome}
    (ready : job.Ready workspace made)
    (split : (job.play collection kept).2 = before ++ rest)
    (done : made.makeAll (before.flatMap job.changesOf) = (after, none)) :
    made.Gains after (job.outputAt workspace)
      (before.filterMap (Outcome.place? job.target)) := by
  obtain ⟨opened, proper, distinct⟩ := playOpened job collection kept
  rw [split, List.filterMap_append] at opened proper distinct
  rw [List.map_append] at distinct
  rw [job.nodesPlaces] at done
  exact Workspace.gainsPlaces opened.front (List.forall_mem_append.1 proper).1 ready.leads
    (List.nodup_append.1 distinct).1 done

theorem runFailed {job : Job} {collection : Collection} {workspace after : Workspace}
    {failure : Failure} (failed : job.run collection workspace = (after, .error failure)) :
    (∃ fault, workspace.makeDirectories job.output = (after, some fault)) ∨
      workspace.makeDirectories job.output = (after, none) ∧
        Archive.read after job.archive = .error failure ∨
      ∃ made kept fault, workspace.makeDirectories job.output = (made, none) ∧
        Archive.read made job.archive = .ok kept ∧
        made.makeAll (job.changes (job.play collection kept).1 (job.play collection kept).2) =
          (after, some fault) := by
  unfold Job.run at failed
  split at failed
  · rename_i stuck
    cases failed
    exact .inl ⟨_, stuck⟩
  rename_i made ready
  split at failed
  · rename_i unread
    cases failed
    exact .inr (.inl ⟨ready, unread⟩)
  rename_i kept loaded
  simp only at failed
  split at failed
  · rename_i stopped
    cases failed
    exact .inr (.inr ⟨made, kept, _, ready, loaded, stopped⟩)
  · simp at failed

theorem earlyIntact {job : Job} {collection : Collection} {kept : Snapshot}
    {workspace made after : Workspace} {fault : Fault} (ready : job.Ready workspace made)
    (stopped : made.makeAll ((job.play collection kept).2.flatMap job.changesOf ++
      [.missing (job.output.child "variables.json").parent]) = (after, some fault)) :
    job.Intact made after := by
  obtain ⟨opened, proper, distinct⟩ := playOpened job collection kept
  rw [job.nodesPlaces] at stopped
  rcases Workspace.makeAllAppendStopped stopped with node | ⟨reached, nodes, home⟩
  · obtain ⟨done, rest, split, gains⟩ :=
      Workspace.placesStopped opened proper ready.leads distinct node
    have numbered := nodesSomeNumber job.target (job.play collection kept).2
    rw [split] at numbered
    exact Job.intactGains gains fun place member =>
      numbered place (List.mem_append_left rest member)
  · have gains := Workspace.gainsPlaces opened proper ready.leads distinct nodes
    obtain ⟨names, absolute⟩ := Path.parentChild job.output Job.keptPlain.1
    have made_ : after = (reached.supplyDirectory (job.output.child "variables.json").parent).1 := by
      rw [Workspace.makeAll] at home
      split at home
      · cases home
      · exact (congrArg Prod.fst home).symm
    have way : reached.AlongWay job.output after := by
      intro location changed
      rw [made_] at changed
      obtain ⟨front, inside, same⟩ := Workspace.supplyDirectoryWay _ _ location changed
      rw [names] at inside
      refine ⟨front, inside, same.trans ?_⟩
      rw [Workspace.origin, absolute]
      rfl
    have adds := reached.supplyDirectoryAdds (job.output.child "variables.json").parent
    rw [← made_] at adds
    exact (Job.intactGains gains (nodesSomeNumber _ _)).trans (Job.intactWay adds way)
      (Workspace.makeAllKeeps nodes).current

theorem nodeStuck {job : Job} {collection : Collection} {kept : Snapshot}
    {workspace made reached after : Workspace} {before rest : List Outcome} {outcome : Outcome}
    {fault : Fault} (ready : job.Ready workspace made)
    (split : (job.play collection kept).2 = before ++ outcome :: rest)
    (done : made.makeAll (before.flatMap job.changesOf) = (reached, none))
    (stuck : reached.makeAll (job.changesOf outcome) = (after, some fault)) : after = reached := by
  obtain ⟨opened, proper, -⟩ := playOpened job collection kept
  rw [Outcome.changesPlace] at stuck
  cases found : outcome.place? job.target with
  | none =>
    rw [found] at stuck
    cases stuck
  | some place =>
    rw [split, List.filterMap_append, List.filterMap_cons_some found] at opened proper
    rw [job.nodesPlaces] at done
    rw [found, Option.map_some, Option.toList_some, Workspace.makeAll] at stuck
    have single : reached.make (place.change job.output) = (after, some fault) := by
      split at stuck
      · cases stuck
      · exact stuck
    exact Workspace.placeStuck opened proper ready.leads done single

theorem stuckRun {job : Job} {collection : Collection} {kept : Snapshot}
    {workspace made reached after : Workspace} {failure : Failure} {before rest : List Outcome}
    {outcome : Outcome} (failed : job.run collection workspace = (after, .error failure))
    (ready : job.Ready workspace made) (loaded : Archive.read made job.archive = .ok kept)
    (split : (job.play collection kept).2 = before ++ outcome :: rest)
    (done : made.makeAll (before.flatMap job.changesOf) = (reached, none))
    (stuck : (reached.makeAll (job.changesOf outcome)).2 ≠ none) : after = reached := by
  have whole : made.makeAll (job.changes (job.play collection kept).1
      (job.play collection kept).2) = reached.makeAll (job.changesOf outcome) := by
    rw [Job.changes, split, List.flatMap_append, List.flatMap_cons, List.append_assoc,
      Workspace.makeAllAppend, done, List.append_assoc]
    exact Workspace.makeAllStuck stuck _
  rcases runFailed failed with ⟨fault, unmade⟩ | ⟨ended, unread⟩ | ⟨again, found, fault, ended⟩
  · cases ready.done.symm.trans unmade
  · cases ready.done.symm.trans ended
    cases loaded.symm.trans unread
  · obtain ⟨same, read, stopped⟩ := ended
    cases ready.done.symm.trans same
    cases loaded.symm.trans read
    exact nodeStuck ready split done (whole.symm.trans stopped)

theorem testsAround {job : Job} {collection : Collection} {kept : Snapshot}
    {workspace made reached : Workspace} {before rest : List Outcome}
    (ready : job.Ready workspace made)
    (split : (job.play collection kept).2 = before ++ rest)
    (done : made.makeAll (before.flatMap job.changesOf) = (reached, none)) :
    (∀ outcome ∈ before, ∀ artifacts, outcome.result = .written artifacts →
      reached.entry? (job.outputAt workspace ++ outcome.path job.target) =
        some (.file (job.target.render outcome.visit.depth artifacts).toUTF8)) ∧
      ∀ outcome ∈ rest, ∀ content,
        reached.entry? (job.outputAt workspace ++ outcome.path job.target) =
            some (.file content) ↔
          workspace.entry? (job.outputAt workspace ++ outcome.path job.target) =
            some (.file content) := by
  have gains := frontGains ready split done
  constructor
  · intro outcome member artifacts written
    have node : ⟨outcome.path job.target,
        some (job.target.render outcome.visit.depth artifacts)⟩ ∈
        before.filterMap (Outcome.place? job.target) :=
      List.mem_filterMap.2 ⟨outcome, member, by rw [Outcome.place?, written]⟩
    exact gains.there _ node
  · intro outcome member content
    have adds := workspace.makeDirectoriesAdds job.output
    rw [ready.done] at adds
    have distinct := job.playNumbers collection kept
    rw [split, List.map_append, List.nodup_append] at distinct
    rw [Job.gainedApart gains, adds.files]
    intro place placed same
    obtain ⟨other, early, number⟩ := nodesNumbered placed
    have last : lastNumber? (job.outputAt workspace ++ outcome.path job.target) =
        some outcome.visit.number := by
      rw [← Outcome.pathNumber job.target outcome, Outcome.path, ← List.append_assoc, lastNumber?,
        lastNumber?, List.getLast?_concat, List.getLast?_concat]
    rw [number, last, Option.some.injEq] at same
    exact distinct.2.2 _ (List.mem_map_of_mem early) _ (List.mem_map_of_mem member) same

theorem unreadRun {job : Job} {collection : Collection} {workspace made after : Workspace}
    {failure unread : Failure} (failed : job.run collection workspace = (after, .error failure))
    (ready : job.Ready workspace made) (refused : Archive.read made job.archive = .error unread) :
    after = made := by
  rcases runFailed failed with ⟨fault, unmade⟩ | ⟨ended, -⟩ | ⟨again, found, fault, ended, read, -⟩
  · exact nomatch ready.done.symm.trans unmade
  · exact congrArg Prod.fst (ended.symm.trans ready.done)
  · cases ready.done.symm.trans ended
    exact nomatch refused.symm.trans read

theorem madeOnWay (workspace : Workspace) (path : Path) (location : Location) :
    let made := (workspace.makeDirectories path).1
    made.entry? location = workspace.entry? location ∨
      workspace.entry? location = none ∧ made.entry? location = some .directory ∧
        workspace.OnWay path location := by
  intro made
  rcases (workspace.makeDirectoriesAdds path).entries location with same | ⟨missing, there⟩
  · exact .inl same
  · refine .inr ⟨missing, there, workspace.makeDirectoriesWay path location ?_⟩
    rw [missing, there]
    exact nofun

theorem failedRunKeepsShared {job : Job} {collection : Collection} {workspace after : Workspace}
    {failure : Failure}
    (usual : job.config.variablesFile = Config.default.variablesFile)
    (failed : job.run collection workspace = (after, .error failure)) :
    let made := (workspace.makeDirectories job.output).1
    let ready := (workspace.makeDirectories job.output).2 = none
    let output := job.outputAt workspace
    ((∃ kept reached fault, ready ∧ Archive.read made job.archive = .ok kept ∧
        made.makeAll ((job.play collection kept).2.flatMap job.changesOf ++
          [.missing job.archive.parent]) = (reached, none) ∧
        reached.makeAll ((job.sharedPlaces (job.play collection kept).1).map
          (Place.change job.output)) = (after, some fault)) ∨
      job.Intact workspace after) ∧
    (∀ unread, ready → Archive.read made job.archive = .error unread →
      job.Intact workspace after ∧
        ∀ location, after.entry? location = workspace.entry? location ∨
          workspace.entry? location = none ∧ after.entry? location = some .directory ∧
            workspace.OnWay job.output location) ∧
    ∀ kept before outcome rest reached, ready → Archive.read made job.archive = .ok kept →
      (job.play collection kept).2 = before ++ outcome :: rest →
      made.makeAll (before.flatMap job.changesOf) = (reached, none) →
      (reached.makeAll (job.changesOf outcome)).2 ≠ none →
      job.Intact workspace after ∧
      (∀ earlier ∈ before, ∀ artifacts, earlier.result = .written artifacts →
        after.entry? (output ++ earlier.path job.target) =
          some (.file (job.target.render earlier.visit.depth artifacts).toUTF8)) ∧
      ∀ later ∈ outcome :: rest, ∀ content,
        after.entry? (output ++ later.path job.target) = some (.file content) ↔
          workspace.entry? (output ++ later.path job.target) = some (.file content) := by
  intro made ready output
  refine ⟨?_, ?_, ?_⟩
  · rcases runFailed failed with ⟨fault, unmade⟩ | ⟨ended, -⟩ | ⟨again, kept, fault, ended⟩
    · have intact := job.outputIntact workspace
      rw [unmade] at intact
      exact .inr intact
    · have intact := job.outputIntact workspace
      rw [ended] at intact
      exact .inr intact
    · obtain ⟨done, loaded, stopped⟩ := ended
      have same : made = again := congrArg Prod.fst done
      have shared : job.changes (job.play collection kept).1 (job.play collection kept).2 =
          ((job.play collection kept).2.flatMap job.changesOf ++
            [.missing (job.output.child "variables.json").parent]) ++
          (job.sharedPlaces (job.play collection kept).1).map (Place.change job.output) := by
        rw [Job.changesPlaces usual, job.nodesPlaces, List.append_assoc]
        rfl
      rw [shared] at stopped
      rw [same]
      rcases Workspace.makeAllAppendStopped stopped with early | ⟨reached, before, last⟩
      · have intact := job.outputIntact workspace
        rw [done] at intact
        have adds := workspace.makeDirectoriesAdds job.output
        rw [done] at adds
        exact .inr (intact.trans (earlyIntact (Job.outputReady done) early) adds.current)
      · rw [← Job.usualArchive usual] at before
        exact .inl ⟨kept, reached, fault, congrArg Prod.snd done, loaded, before, last⟩
  · intro unread done refused
    have same := unreadRun failed (Job.outputReady (Prod.ext rfl done)) refused
    rw [same]
    exact ⟨job.outputIntact workspace, madeOnWay workspace job.output⟩
  · intro kept before outcome rest reached done loaded split nodes stuck
    have ready : job.Ready workspace made := Job.outputReady (Prod.ext rfl done)
    have gains := frontGains ready split nodes
    have intact := (job.outputIntact workspace).trans (Job.intactGains gains (nodesSomeNumber _ _))
      (workspace.makeDirectoriesAdds job.output).current
    rw [stuckRun failed ready loaded split nodes stuck]
    exact ⟨intact, testsAround ready split nodes⟩

def roundaboutJob : Job := { browserJob with output := .ofText "out/variables.json/.." }

theorem directoryComesForKept :
    roundaboutJob.config.variablesFile = Config.default.variablesFile ∧
      ∃ made failure,
        (⟨[], []⟩ : Workspace).makeDirectories roundaboutJob.output = (made, none) ∧
        Archive.read made roundaboutJob.archive = .error failure ∧
        roundaboutJob.run ⟨"none", some [], []⟩ ⟨[], []⟩ = (made, .error failure) ∧
        Workspace.entry? ⟨[], []⟩ ["out", "variables.json"] = none ∧
        made.entry? ["out", "variables.json"] = some .directory ∧
        roundaboutJob.outputAt ⟨[], []⟩ = ["out"] := by
  refine ⟨rfl, ⟨[], [(["out"], .directory), (["out", "variables.json"], .directory)]⟩,
    .file .isDirectory, ?_, ?_, ?_, rfl, rfl, rfl⟩
  · rfl
  · rfl
  · rfl

def brokenKept : Workspace :=
  ⟨[], [(["out"], .directory), (["out", "variables.json"], .file "\x7b".toUTF8)]⟩

theorem errorOf {α : Type} {answer : Except Failure α} (none : answer.toOption.isNone = true) :
    ∃ failure, answer = .error failure := by
  cases answer with
  | error failure => exact ⟨failure, rfl⟩
  | ok value => contradiction

theorem brokenKeptStays :
    ∃ after failure, browserJob.run chained brokenKept = (after, .error failure) ∧
      after.entry? ["out", "variables.json"] = some (.file "\x7b".toUTF8) ∧
      after.entry? ["out", "variables.js"] = none := by
  have ended : (browserJob.run chained brokenKept).2.toOption.isNone = true := by decide +kernel
  have refused : (Archive.read (brokenKept.makeDirectories browserJob.output).1
      browserJob.archive).toOption.isNone = true := by decide +kernel
  obtain ⟨failure, failed⟩ := errorOf ended
  obtain ⟨unread, broken⟩ := errorOf refused
  obtain ⟨-, keeps, -⟩ := failedRunKeepsShared rfl (Prod.ext rfl failed)
  obtain ⟨intact, -⟩ := keeps unread rfl broken
  refine ⟨_, failure, Prod.ext rfl failed, ?_, ?_⟩
  · exact (intact.files "variables.json" (by decide) ["out"] _).2 rfl
  · exact intact.straight (by decide) "variables.js" (by decide)

end RequestSuite.Conversion
