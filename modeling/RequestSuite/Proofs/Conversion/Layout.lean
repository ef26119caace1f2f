import Mathlib.Data.List.Nodup
import RequestSuite.Proofs.Conversion.Numbering

/-! All that a run leaves in an empty directory: a directory for each folder, a file for each
request that was resolved, and the files they share. No two have one place, since a node's place
ends with the node's number and the shared names do not begin with a digit, so none is written
over. -/
namespace RequestSuite.Conversion
open Files Variable Suite Text
open Collection (Visit Item)
open Files.Path (IsPlain)

def IsGenerated (target : Target) (name : String) : Prop :=
  ∃ stem : String, stem ≠ "" ∧ (∀ c ∈ stem.toList, Stem.isStemChar c = true) ∧
    (name = stem ∨ name = stem ++ "." ++ target.extension)

theorem generatedNumbered (target : Target) (number : Nat) (title : String) :
    IsPlain (Stem.numbered number title) ∧ IsGenerated target (Stem.numbered number title) := by
  have plain := Stem.plainNumber (Stem.numberOf number title)
  exact ⟨plain, _, Path.nonemptyName plain.1, Stem.numberedChars number title, .inl rfl⟩

theorem generatedFile (target : Target) (visit : Visit) :
    IsPlain (visit.file target) ∧ IsGenerated target (visit.file target) := by
  have named := Stem.plainNumber (Stem.numberOf visit.number visit.item.name)
  exact ⟨Stem.plainNumber (fileNumber target visit), visit.stem, Path.nonemptyName named.1,
    Stem.numberedChars visit.number visit.item.name, .inr rfl⟩

namespace Outcome

def place? (target : Target) (outcome : Outcome) : Option Place :=
  match outcome.result with
  | .folder => some ⟨outcome.visit.above ++ [outcome.visit.stem], none⟩
  | .written artifacts =>
    some ⟨outcome.path target, some (target.render outcome.visit.depth artifacts)⟩
  | _ => none

theorem changesPlace (job : Job) (outcome : Outcome) :
    job.changesOf outcome = ((outcome.place? job.target).map (Place.change job.output)).toList := by
  unfold Job.changesOf place?
  cases outcome.result <;> rfl

theorem placeNumber {target : Target} {outcome : Outcome} {place : Place}
    (found : outcome.place? target = some place) :
    lastNumber? place.names = some outcome.visit.number := by
  unfold place? at found
  split at found
  · cases found
    rw [lastNumber?, List.getLast?_concat, Option.bind_some]
    exact Stem.numberOf outcome.visit.number outcome.visit.item.name
  · cases found
    exact pathNumber target outcome
  · contradiction

theorem pathGenerated {target : Target} {outcome : Outcome}
    (above : ∀ name ∈ outcome.visit.above, IsPlain name ∧ IsGenerated target name) :
    ∀ name ∈ outcome.path target, IsPlain name ∧ IsGenerated target name := by
  refine List.forall_mem_append.2 ⟨above, ?_⟩
  intro name last
  rw [List.mem_singleton.1 last]
  exact generatedFile target outcome.visit

theorem placeGenerated {target : Target} {outcome : Outcome} {place : Place}
    (above : ∀ name ∈ outcome.visit.above, IsPlain name ∧ IsGenerated target name)
    (found : outcome.place? target = some place) :
    place.names ≠ [] ∧ ∀ name ∈ place.names, IsPlain name ∧ IsGenerated target name := by
  unfold place? at found
  split at found
  · cases found
    refine ⟨by simp, List.forall_mem_append.2 ⟨above, ?_⟩⟩
    intro name last
    rw [List.mem_singleton.1 last]
    exact generatedNumbered target _ _
  · cases found
    exact ⟨by simp [path], pathGenerated above⟩
  · contradiction

end Outcome

theorem placesNumbers (target : Target) (outcomes : List Outcome) :
    (((outcomes.filterMap (Outcome.place? target)).map Place.names).map lastNumber?).Sublist
      (outcomes.map fun outcome => some outcome.visit.number) := by
  induction outcomes with
  | nil => exact .slnil
  | cons outcome rest ih =>
    cases found : outcome.place? target with
    | none =>
      rw [List.filterMap_cons_none found]
      exact ih.cons _
    | some place =>
      rw [List.filterMap_cons_some found, List.map_cons, List.map_cons, List.map_cons,
        Outcome.placeNumber found]
      exact ih.cons_cons _

/- The induction goes over the visits as they open directories; a visit that is no folder opens
none, whatever became of it. -/
theorem placesOpened {outcomes : List Outcome} (sound : ∀ outcome ∈ outcomes, outcome.Sound)
    (target : Target) {dirs : List (List String)}
    (opened : Opened Visit.above Visit.opens dirs (outcomes.map Outcome.visit)) :
    Opened Place.parent Place.opens dirs (outcomes.filterMap (Outcome.place? target)) := by
  induction outcomes generalizing dirs with
  | nil => exact .nil
  | cons outcome rest ih =>
    obtain ⟨first, others⟩ := List.forall_mem_cons.1 sound
    cases opened with
    | cons there later =>
      have below := ih others later
      cases first with
      | @folder visit folder =>
        refine .cons (by simpa [Place.parent] using there) ?_
        simpa [Visit.opens, folder, Place.opens] using below
      | written leaf =>
        refine .cons (by simpa [Place.parent, Outcome.path] using there) ?_
        simpa [Visit.opens, leaf, Place.opens] using below
      | @failed visit request missing leaf =>
        have unplaced : Outcome.place? target ⟨visit, .failed request missing⟩ = none := rfl
        rw [List.filterMap_cons_none unplaced]
        simpa [Visit.opens, leaf] using below
      | @nothing visit leaf =>
        have unplaced : Outcome.place? target ⟨visit, .nothing⟩ = none := rfl
        rw [List.filterMap_cons_none unplaced]
        simpa [Visit.opens, leaf] using below

theorem placesFolders {outcomes : List Outcome} (sound : ∀ outcome ∈ outcomes, outcome.Sound)
    (target : Target) :
    ((outcomes.filterMap (Outcome.place? target)).filter Place.isDirectory).map Place.names =
      ((outcomes.map Outcome.visit).filter fun visit => visit.item.isFolder).map fun visit =>
        visit.above ++ [visit.stem] := by
  induction outcomes with
  | nil => rfl
  | cons outcome rest ih =>
    obtain ⟨first, others⟩ := List.forall_mem_cons.1 sound
    have below := ih others
    rw [List.filterMap_cons, List.map_cons, List.filter_cons]
    cases first with
    | folder folder =>
      simpa [Outcome.place?, Place.isDirectory, List.filter_cons, folder] using below
    | written leaf => simpa [Outcome.place?, Place.isDirectory, List.filter_cons, leaf] using below
    | failed leaf => simpa [Outcome.place?, leaf] using below
    | nothing leaf => simpa [Outcome.place?, leaf] using below

theorem placesFiles (target : Target) (outcomes : List Outcome) :
    ((outcomes.filterMap (Outcome.place? target)).filter fun place => !place.isDirectory).map
        Place.names =
      ((outcomes.filterMap (Outcome.entry? target)).filter Entry.isSuccess).map Entry.path := by
  induction outcomes with
  | nil => rfl
  | cons outcome rest ih =>
    obtain ⟨visit, result⟩ := outcome
    rw [List.filterMap_cons, List.filterMap_cons]
    cases result with
    | folder => simpa [Outcome.place?, Outcome.entry?, Place.isDirectory, List.filter_cons] using ih
    | written artifacts =>
      simpa [Outcome.place?, Outcome.entry?, Place.isDirectory, Entry.isSuccess, List.filter_cons]
        using ih
    | failed request missing =>
      simpa [Outcome.place?, Outcome.entry?, Entry.isSuccess, List.filter_cons] using ih
    | nothing => exact ih

namespace Job

def sharedPlaces (job : Job) (session : Session) : List Place :=
  ⟨["variables.json"], some (Archive.render session.finish)⟩ ::
    ⟨["variables.js"], some (variablesModule session)⟩ ::
    match job.target with
    | .playwright => [⟨["package.json"], some (package job.config).pretty⟩]
    | .jmeter => []

theorem keptPlain : IsPlain "variables.json" := by
  unfold IsPlain
  decide

theorem sharedAlone (job : Job) (session : Session) {place : Place}
    (member : place ∈ job.sharedPlaces session) :
    ∃ name text, place = ⟨[name], some text⟩ ∧ IsPlain name ∧ Stem.number? name = none := by
  unfold sharedPlaces at member
  rcases List.mem_cons.1 member with rfl | others
  · exact ⟨"variables.json", _, rfl, keptPlain, rfl⟩
  rcases List.mem_cons.1 others with rfl | package
  · exact ⟨"variables.js", _, rfl, sharedNames.1, rfl⟩
  split at package
  · rw [List.mem_singleton.1 package]
    exact ⟨"package.json", _, rfl, sharedNames.2, rfl⟩
  · contradiction

theorem sharedUnnumbered (job : Job) (session : Session) {place : Place}
    (member : place ∈ job.sharedPlaces session) : lastNumber? place.names = none := by
  obtain ⟨name, text, rfl, -, unnumbered⟩ := job.sharedAlone session member
  exact unnumbered

theorem sharedDistinct (job : Job) (session : Session) :
    ((job.sharedPlaces session).map Place.names).Nodup := by
  unfold sharedPlaces
  cases job.target <;> simp

theorem sharedOpened (job : Job) (session : Session) :
    Opened Place.parent Place.opens [[]] (job.sharedPlaces session) := by
  refine .ofFiles ?_
  intro place member
  obtain ⟨name, text, rfl, -, -⟩ := job.sharedAlone session member
  exact ⟨List.mem_singleton_self _, rfl⟩

def places (job : Job) (session : Session) (outcomes : List Outcome) : List Place :=
  outcomes.filterMap (Outcome.place? job.target) ++ job.sharedPlaces session

theorem placesDistinct (job : Job) (session : Session) {outcomes : List Outcome}
    (distinct : (outcomes.map fun outcome => outcome.visit.number).Nodup) :
    ((job.places session outcomes).map Place.names).Nodup := by
  rw [places, List.map_append, List.nodup_append]
  refine ⟨?_, job.sharedDistinct session, ?_⟩
  · refine List.Nodup.of_map lastNumber? ((placesNumbers job.target outcomes).nodup ?_)
    have numbers := distinct.map fun _ _ => Option.some.inj
    rwa [List.map_map] at numbers
  · rintro names node others shared rfl
    obtain ⟨place, placed, rfl⟩ := List.mem_map.1 node
    obtain ⟨outcome, -, found⟩ := List.mem_filterMap.1 placed
    obtain ⟨other, alone, same⟩ := List.mem_map.1 shared
    have number := Outcome.placeNumber found
    rw [← same, job.sharedUnnumbered session alone] at number
    contradiction

theorem usualArchive {job : Job} (usual : job.config.variablesFile = Config.default.variablesFile) :
    job.archive = job.output.child "variables.json" := by
  have file : Path.ofText Config.default.variablesFile = ⟨["variables.json"]⟩ := by decide
  rw [archive, usual, file]
  rfl

theorem nodesPlaces (job : Job) (outcomes : List Outcome) :
    outcomes.flatMap job.changesOf =
      (outcomes.filterMap (Outcome.place? job.target)).map (Place.change job.output) := by
  rw [List.map_filterMap, List.filterMap_eq_flatMap_toList]
  exact congrArg (outcomes.flatMap ·) (funext (Outcome.changesPlace job))

theorem changesPlaces {job : Job}
    (usual : job.config.variablesFile = Config.default.variablesFile) (session : Session)
    (outcomes : List Outcome) :
    job.changes session outcomes =
      (outcomes.filterMap (Outcome.place? job.target)).map (Place.change job.output) ++
        .missing (job.output.child "variables.json").parent ::
          (job.sharedPlaces session).map (Place.change job.output) := by
  have package : job.packageChanges =
      (match job.target with
      | .playwright => [⟨["package.json"], some (Job.package job.config).pretty⟩]
      | .jmeter => [] : List Place).map (Place.change job.output) := by
    unfold packageChanges
    cases job.target <;> rfl
  rw [changes, job.nodesPlaces, lastChanges, Archive.changes, usualArchive usual, package]
  rfl

theorem changesMade {job : Job}
    (usual : job.config.variablesFile = Config.default.variablesFile) {session : Session}
    {outcomes : List Outcome} {made after : Workspace} {here : Location}
    (vacant : made.Vacant job.output here)
    (done : made.makeAll (job.changes session outcomes) = (after, none)) :
    made.makeAll ((job.places session outcomes).map (Place.change job.output)) = (after, none) := by
  rw [changesPlaces usual] at done
  obtain ⟨middle, nodes, rest⟩ := Workspace.makeAllSplit done
  obtain ⟨same, parent, shared⟩ := Workspace.makeAllStep rest
  have keeps := Workspace.makeAllKeeps nodes
  have leads := keeps.directoryAt vacant.leads
  rw [← Workspace.directoryParent middle job.output keptPlain.1] at leads
  have still := Workspace.makeDirectoriesThere leads (keeps.directories here vacant.there)
  have unchanged : same = middle := by
    have supplied : middle.supplyDirectory (job.output.child "variables.json").parent =
        (same, none) := parent
    obtain there | made := middle.supplyDirectoryCases (job.output.child "variables.json").parent
    · exact congrArg Prod.fst (supplied.symm.trans there)
    · rw [← still, ← made, supplied]
  rw [places, List.map_append, Workspace.makeAllAppend, nodes, ← unchanged]
  exact shared

end Job

theorem keptEmpty {workspace : Workspace} {path : Path} {here : Location} {name : String}
    {kept : Snapshot} (vacant : workspace.Vacant path here) (plain : IsPlain name)
    (loaded : Archive.read workspace (path.child name) = .ok kept) : kept = .empty := by
  obtain ⟨fault, unread⟩ := vacant.readChild plain
  unfold Archive.read at loaded
  rw [unread] at loaded
  split at loaded
  · contradiction
  · exact (Except.ok.inj loaded).symm
  · contradiction

theorem aboveGenerated {collection : Collection} {visit : Visit} (target : Target)
    (member : visit ∈ collection.visits) :
    ∀ name ∈ visit.above, IsPlain name ∧ IsGenerated target name := by
  intro name inside
  obtain ⟨number, title, rfl⟩ := collection.visitsAbove member name inside
  exact generatedNumbered target number title

theorem playPlaces {job : Job} {collection : Collection} {kept : Snapshot} {place : Place}
    (member : place ∈ (job.play collection kept).2.filterMap (Outcome.place? job.target)) :
    place.names ≠ [] ∧ ∀ name ∈ place.names, IsPlain name ∧ IsGenerated job.target name := by
  obtain ⟨outcome, inside, found⟩ := List.mem_filterMap.1 member
  exact Outcome.placeGenerated (aboveGenerated job.target (Job.playVisit inside)) found

theorem playOpened (job : Job) (collection : Collection) (kept : Snapshot) :
    let nodes := (job.play collection kept).2.filterMap (Outcome.place? job.target)
    Opened Place.parent Place.opens [[]] nodes ∧ (∀ place ∈ nodes, place.IsProper) ∧
      (nodes.map Place.names).Nodup := by
  intro nodes
  have visited : Opened Visit.above Visit.opens [[]]
      ((job.play collection kept).2.map Outcome.visit) := by
    rw [job.playVisits collection kept]
    exact collection.visitsOpened
  have distinct := job.placesDistinct (job.play collection kept).1
    (job.playNumbers collection kept)
  rw [Job.places, List.map_append] at distinct
  refine ⟨placesOpened (job.playSound collection kept) job.target visited, ?_,
    (List.nodup_append.1 distinct).1⟩
  intro place node
  obtain ⟨filled, generated⟩ := playPlaces node
  exact ⟨filled, fun name inside => (generated name inside).1⟩

theorem playGains {job : Job} {collection : Collection} {kept : Snapshot}
    {made after : Workspace} {here : Location}
    (usual : job.config.variablesFile = Config.default.variablesFile)
    (vacant : made.Vacant job.output here)
    (done : made.makeAll (job.changes (job.play collection kept).1 (job.play collection kept).2) =
      (after, none)) :
    made.Gains after here
      (job.places (job.play collection kept).1 (job.play collection kept).2) := by
  obtain ⟨opened, proper, -⟩ := playOpened job collection kept
  refine Workspace.gainsPlaces (opened.append (job.sharedOpened _)) ?_ vacant.leads
    (job.placesDistinct _ (job.playNumbers collection kept)) (Job.changesMade usual vacant done)
  refine List.forall_mem_append.2 ⟨proper, ?_⟩
  intro place shared
  obtain ⟨name, text, rfl, plain, -⟩ := job.sharedAlone _ shared
  exact ⟨List.cons_ne_nil _ _, Path.plainSingle plain⟩

/- The place of a failed request stays free: a node's place with its number would be its own. -/
theorem failedPlace {job : Job} {session : Session} {outcomes : List Outcome} {entry : Entry}
    (distinct : (outcomes.map fun outcome => outcome.visit.number).Nodup)
    (member : entry ∈ outcomes.filterMap (Outcome.entry? job.target))
    (failed : entry.isSuccess = false) :
    entry.path ≠ [] ∧ ∀ place ∈ job.places session outcomes, entry.path ≠ place.names := by
  obtain ⟨outcome, inside, told⟩ := List.mem_filterMap.1 member
  obtain ⟨-, path, -, unresolved⟩ := Outcome.entrySource told
  obtain ⟨request, missing, result⟩ := unresolved failed
  rw [path]
  refine ⟨by simp [Outcome.path], List.forall_mem_append.2 ⟨?_, ?_⟩⟩
  · intro place node same
    obtain ⟨other, there, found⟩ := List.mem_filterMap.1 node
    have numbers := Outcome.placeNumber found
    rw [← same, Outcome.pathNumber, Option.some.injEq] at numbers
    have one := List.inj_on_of_nodup_map distinct inside there numbers
    rw [← one, Outcome.place?, result] at found
    contradiction
  · intro place shared same
    have unnumbered := job.sharedUnnumbered session shared
    rw [← same, Outcome.pathNumber] at unnumbered
    contradiction

theorem filesLeft {job : Job} {collection : Collection} {workspace after : Workspace}
    {report : Report} {here : Location}
    (usual : job.config.variablesFile = Config.default.variablesFile)
    (vacant : (workspace.makeDirectories job.output).1.Vacant job.output here)
    (done : job.run collection workspace = (after, .ok report)) :
    let session := Session.start (job.sources collection) .empty
    let outcomes := (session.takeAll collection.visits).2
    let nodes := outcomes.filterMap (Outcome.place? job.target)
    (workspace.makeDirectories job.output).1.Gains after here
        (nodes ++ job.sharedPlaces (session.takeAll collection.visits).1) ∧
      (nodes.filter Place.isDirectory).map Place.names =
        (collection.visits.filter fun visit => visit.item.isFolder).map (fun visit =>
          visit.above ++ [visit.stem]) ∧
      (nodes.filter fun place => !place.isDirectory).map Place.names =
        (report.entries.filter Entry.isSuccess).map Entry.path ∧
      (∀ entry ∈ report.entries, entry.isSuccess = true →
        ∃ visit artifacts, collection.visits[entry.number]? = some visit ∧
          ((session.takeAll (collection.visits.take entry.number)).1.take visit).2 =
            .written artifacts ∧
          after.entry? (here ++ entry.path) =
            some (.file (job.target.render visit.depth artifacts).toUTF8)) ∧
      (∀ entry ∈ report.entries, entry.isSuccess = false →
        after.entry? (here ++ entry.path) = none) ∧
      (∀ place ∈ nodes, ∀ name ∈ place.names, IsPlain name ∧ IsGenerated job.target name) ∧
      ∀ entry ∈ report.entries, ∀ name ∈ entry.path,
        IsPlain name ∧ IsGenerated job.target name := by
  intro session outcomes nodes
  obtain ⟨made, kept, ready, loaded, finished, rfl⟩ := runDone done
  rw [ready] at vacant ⊢
  rw [Job.usualArchive usual] at loaded
  cases keptEmpty vacant Job.keptPlain loaded
  have gains := playGains usual vacant finished
  have sound := job.playSound collection .empty
  have visits := job.playVisits collection .empty
  have distinct := job.playNumbers collection .empty
  refine ⟨gains, ?_, placesFiles job.target outcomes, ?_, ?_, ?_, ?_⟩
  · rw [← visits]
    exact placesFolders sound job.target
  · intro entry member success
    obtain ⟨outcome, inside, told⟩ := List.mem_filterMap.1 member
    obtain ⟨number, path, resolved, -⟩ := Outcome.entrySource told
    obtain ⟨artifacts, written⟩ := resolved success
    obtain ⟨position, reached, taken⟩ := Session.takeAllMember inside
    have node : ⟨outcome.path job.target,
        some (job.target.render outcome.visit.depth artifacts)⟩ ∈ nodes :=
      List.mem_filterMap.2 ⟨outcome, inside, by rw [Outcome.place?, written]⟩
    rw [number, ← collection.visitNumber reached, path]
    refine ⟨outcome.visit, artifacts, reached, taken.symm.trans written, ?_⟩
    exact gains.there _ (List.mem_append_left _ node)
  · intro entry member failed
    obtain ⟨filled, free⟩ := failedPlace distinct member failed
    rw [gains.others _ fun place there same => free place there (List.append_cancel_left same)]
    exact vacant.nothing entry.path filled
  · intro place node
    exact (playPlaces node).2
  · intro entry member
    obtain ⟨outcome, inside, told⟩ := List.mem_filterMap.1 member
    obtain ⟨-, path, -⟩ := Outcome.entrySource told
    rw [path]
    exact Outcome.pathGenerated (aboveGenerated job.target (Job.playVisit inside))

theorem freshOutput :
    ((⟨[], []⟩ : Workspace).makeDirectories browserJob.output).1.Vacant browserJob.output
      ["out"] := by
  have made : ((⟨[], []⟩ : Workspace).makeDirectories browserJob.output).1 =
      ⟨[], [(["out"], .directory)]⟩ := rfl
  rw [made]
  refine ⟨by rfl, by rfl, ?_⟩
  rintro names filled
  cases names with
  | nil => contradiction
  | cons first rest => simp [Workspace.entry?]

theorem failedRequestLeavesNothing :
    ∃ after report, browserJob.run chained ⟨[], []⟩ = (after, .ok report) ∧
      browserJob.config.variablesFile = Config.default.variablesFile ∧
      (after.entry? ["out", "000_folder", "001_first.spec.js"]).isSome = true ∧
      after.entry? ["out", "002_broken.spec.js"] = none := by
  obtain ⟨after, report, done, -⟩ := browserEnds
  obtain ⟨gained, -⟩ := filesLeft rfl freshOutput done
  obtain ⟨places, gains, names⟩ : ∃ places,
      ((⟨[], []⟩ : Workspace).makeDirectories browserJob.output).1.Gains after ["out"] places ∧
        places.map Place.names =
          [["000_folder"], ["000_folder", "001_first.spec.js"], ["003_last.spec.js"],
            ["variables.json"], ["variables.js"], ["package.json"]] :=
    ⟨_, gained, by decide +kernel⟩
  refine ⟨after, report, done, rfl, ?_, ?_⟩
  · have first : ["000_folder", "001_first.spec.js"] ∈ places.map Place.names := by
      rw [names]
      decide
    obtain ⟨place, member, same⟩ := List.mem_map.1 first
    have there := gains.there place member
    rw [same] at there
    exact Option.isSome_iff_exists.2 ⟨_, there⟩
  · refine (gains.others _ ?_).trans rfl
    intro place member same
    have inside : place.names ∈ places.map Place.names := List.mem_map_of_mem member
    have last : place.names = ["002_broken.spec.js"] := (List.cons.inj same).2.symm
    rw [names, last] at inside
    revert inside
    decide

end RequestSuite.Conversion
