import RequestSuite.Proofs.Collection.Outline
import RequestSuite.Proofs.Conversion.Numbering

/-! Two runs over trees of one outline. What requests ask for decides only what becomes of their own
nodes, and the target only how that is written, so the sessions of the two runs agree at every node
and the runs differ at those nodes alone whose requests differ. -/
namespace RequestSuite.Session
open Collection (Visit Item)
open Conversion

theorem processOutline (session : Session) (item : Item) (request other : Collection.Request) :
    (session.process item.outline other).1 = (session.process item request).1 := by
  have prelude : session.preludeOf item.outline = session.preludeOf item := by
    unfold preludeOf Item.preludeScript?
    rw [Item.outlineScript]
  have tests : ∀ reached : Session, reached.testsOf item.outline = reached.testsOf item := by
    intro reached
    rw [testsOf, Item.testScript?, Item.outlineScript, testsOf, Item.testScript?]
  unfold process
  simp only [prelude, tests]

theorem takeOutline (session : Session) (visit : Visit) :
    (session.take visit.outline).1 = (session.take visit).1 := by
  have outlined := visit.outlineNode
  cases kind : visit.item.requestNode? with
  | none =>
    rw [kind] at outlined
    rw [(session.takeOther outlined).1, (session.takeOther kind).1]
  | some node =>
    rw [kind] at outlined
    rw [(takeProcess outlined session).2, (takeProcess kind session).2]
    exact session.processOutline node.1 node.2 .plain

/- The induction goes over the visits; both runs reach the next one with the same session. -/
theorem takeAllOutline (session : Session) (visits : List Visit) :
    (session.takeAll (visits.map Visit.outline)).1 = (session.takeAll visits).1 := by
  induction visits generalizing session with
  | nil => rfl
  | cons visit rest ih =>
    rw [List.map_cons, takeAllConsLast, takeAllConsLast, takeOutline, ih]

theorem takeAllAlike (session : Session) {left right : List Visit}
    (alike : left.map Visit.outline = right.map Visit.outline) :
    (session.takeAll left).1 = (session.takeAll right).1 := by
  rw [← takeAllOutline session left, alike, takeAllOutline]

theorem takeAllSame (session : Session) {left right : List Visit}
    (alike : left.map Visit.outline = right.map Visit.outline) {position : Nat}
    (same : left[position]? = right[position]?) :
    (session.takeAll left).2[position]? = (session.takeAll right).2[position]? := by
  have before :
      (left.take position).map Visit.outline = (right.take position).map Visit.outline := by
    rw [List.map_take, alike, List.map_take]
  rw [takeAllPosition, takeAllPosition, same, session.takeAllAlike before]

end RequestSuite.Session

namespace RequestSuite.Conversion
open Files Variable Suite Text
open Collection (Visit Item)

theorem toldOutline {α : Type} {wanted : Visit → Bool} {told : Visit → α}
    (wantedOutline : ∀ visit, wanted visit.outline = wanted visit)
    (toldSame : ∀ visit, told visit.outline = told visit) (visits : List Visit) :
    ((visits.map Visit.outline).filter wanted).map told = (visits.filter wanted).map told := by
  have first : wanted ∘ Visit.outline = wanted := funext wantedOutline
  have second : told ∘ Visit.outline = told := funext toldSame
  rw [List.filter_map, List.map_map, first, second]

theorem isRequestOutline (visit : Visit) :
    visit.outline.item.isRequest = visit.item.isRequest := by
  rw [Item.isRequest, visit.outlineNode, Option.isSome_map, Item.isRequest]

theorem reportNames (job : Job) (collection : Collection) (kept : Snapshot) :
    ((job.play collection kept).2.filterMap (Outcome.entry? job.target)).map
        (fun entry => (entry.number, entry.name)) =
      ((collection.visits.map Visit.outline).filter fun visit => visit.item.isRequest).map
        fun visit => (visit.number, visit.item.name) := by
  have labels := congrArg (List.map fun label => (label.number, label.name))
    (entriesLabels (job.playSound collection kept) job.target)
  rw [List.map_map, List.map_map, job.playVisits collection kept] at labels
  rw [toldOutline isRequestOutline]
  · exact labels
  · intro visit
    rw [← visit.item.outlineName]
    rfl

theorem reportFolders (job : Job) (collection : Collection) (kept : Snapshot) :
    (job.play collection kept).2.countP Outcome.isFolder =
      (collection.visits.map Visit.outline).countP fun visit => visit.item.isFolder := by
  rw [foldersCount (job.playSound collection kept), ← job.playVisits collection kept,
    List.countP_map, List.countP_map, List.countP_map]
  apply List.countP_congr
  intro outcome member
  change outcome.visit.item.isFolder = true ↔ outcome.visit.item.outline.isFolder = true
  rw [Item.outlineFolder]

theorem visitsAlike {left right : Collection} (alike : left.outline = right.outline) :
    left.visits.map Visit.outline = right.visits.map Visit.outline := by
  rw [left.visitsOutline, alike, right.visitsOutline]

section
variable {first second : Job} {left right : Collection} {kept : Snapshot}
  (alike : left.outline = right.outline) (sources : first.sources left = second.sources right)
include alike sources

theorem playSession : (first.play left kept).1 = (second.play right kept).1 := by
  rw [Job.play, Job.play, sources]
  exact Session.takeAllAlike _ (visitsAlike alike)

theorem playUnchanged {outcome : Outcome} (inside : outcome ∈ (first.play left kept).2)
    (leaf : outcome.visit.item.isFolder = false)
    (unchanged : left.nodes[outcome.visit.number]?.map Item.request =
      right.nodes[outcome.visit.number]?.map Item.request) :
    outcome ∈ (second.play right kept).2 := by
  obtain ⟨position, found⟩ := List.mem_iff_getElem?.1 inside
  have reached : left.visits[position]? = some outcome.visit := by
    rw [← first.playVisits left kept, List.getElem?_map, found]
    rfl
  have outlines := congrArg (fun visits => visits[position]?) (visitsAlike alike)
  simp only [List.getElem?_map, reached, Option.map_some] at outlines
  obtain ⟨visit, there, same⟩ := Option.map_eq_some_iff.1 outlines.symm
  rw [← left.visitNumber reached, ← left.visitsItems, ← right.visitsItems, List.getElem?_map,
    List.getElem?_map, reached, there] at unchanged
  have equal := Visit.leafOutline same.symm leaf (Option.some.inj unchanged)
  have results := Session.takeAllSame (Session.start (first.sources left) kept) (visitsAlike alike)
    (reached.trans (equal ▸ there.symm))
  rw [Job.play, ← sources]
  exact List.mem_of_getElem? (results.symm.trans found)

theorem entryUnchanged {entry : Entry} (target : Target)
    (member : entry ∈ (first.play left kept).2.filterMap (Outcome.entry? target))
    (unchanged : left.nodes[entry.number]?.map Item.request =
      right.nodes[entry.number]?.map Item.request) :
    entry ∈ (second.play right kept).2.filterMap (Outcome.entry? target) := by
  obtain ⟨outcome, inside, found⟩ := List.mem_filterMap.1 member
  rw [(Outcome.entrySource found).1] at unchanged
  have leaf := (first.playSound left kept outcome inside).entryLeaf found
  exact List.mem_filterMap.2 ⟨outcome, playUnchanged alike sources inside leaf unchanged, found⟩

/- A file tells nothing of where it is but its depth, so the two files of one node have one text. -/
theorem fileUnchanged (target : first.target = second.target)
    {made made' after after' : Workspace}
    (finished : made.makeAll (first.changes (first.play left kept).1 (first.play left kept).2) =
      (after, none))
    (finished' : made'.makeAll
      (second.changes (second.play right kept).1 (second.play right kept).2) = (after', none))
    {entry : Entry}
    (member : entry ∈ (first.play left kept).2.filterMap (Outcome.entry? first.target))
    (success : entry.isSuccess = true)
    (unchanged : left.nodes[entry.number]?.map Item.request =
      right.nodes[entry.number]?.map Item.request) :
    ∃ text,
      first.Leaves (first.changes (first.play left kept).1 (first.play left kept).2) after
        entry.path text ∧
      second.Leaves (second.changes (second.play right kept).1 (second.play right kept).2) after'
        entry.path text := by
  obtain ⟨outcome, inside, told⟩ := List.mem_filterMap.1 member
  obtain ⟨number, path, resolved, -⟩ := Outcome.entrySource told
  obtain ⟨artifacts, written⟩ := resolved success
  rw [number] at unchanged
  have leaf := (first.playSound left kept outcome inside).entryLeaf told
  have inside' := playUnchanged alike sources inside leaf unchanged
  have file := Job.leavesTest finished (fun _ there => Job.playPlain there)
    (first.playNumbers left kept) inside written
  have file' := Job.leavesTest finished' (fun _ there => Job.playPlain there)
    (second.playNumbers right kept) inside' written
  rw [← target] at file'
  rw [path]
  exact ⟨_, file, file'⟩

end

theorem requestsLeaveNoTrace {first second : Job} {left right : Collection}
    {before before' after after' : Workspace} {report report' : Report} {kept : Snapshot}
    (alike : left.outline = right.outline) (sources : first.sources left = second.sources right)
    (loaded : Archive.read (before.makeDirectories first.output).1 first.archive = .ok kept)
    (loaded' : Archive.read (before'.makeDirectories second.output).1 second.archive = .ok kept)
    (done : first.run left before = (after, .ok report))
    (done' : second.run right before' = (after', .ok report')) :
    let session := (first.play left kept).1
    let changes := first.changes session (first.play left kept).2
    let changes' := second.changes session (second.play right kept).2
    let named := fun (entry : Entry) => (entry.number, entry.name)
    (second.play right kept).1 = session ∧
      first.Saves changes after session.finish ∧ second.Saves changes' after' session.finish ∧
      after.readText (first.output.child "variables.js") = .ok (Job.variablesModule session) ∧
      after'.readText (second.output.child "variables.js") = .ok (Job.variablesModule session) ∧
      report.folders = report'.folders ∧ report.visible = report'.visible ∧
      report.derivations = report'.derivations ∧ report.cacheHits = report'.cacheHits ∧
      report.entries.map named = report'.entries.map named ∧
      (first.target = second.target → ∀ entry : Entry,
        left.nodes[entry.number]?.map Item.request = right.nodes[entry.number]?.map Item.request →
        (entry ∈ report.entries ↔ entry ∈ report'.entries) ∧
          (entry ∈ report.entries → entry.isSuccess = true → ∃ text,
            first.Leaves changes after entry.path text ∧
            second.Leaves changes' after' entry.path text)) := by
  intro session changes changes' named
  obtain ⟨made, found, ready, again, finished, rfl⟩ := runDone done
  obtain ⟨made', found', ready', again', finished', rfl⟩ := runDone done'
  rw [ready] at loaded
  rw [ready'] at loaded'
  cases loaded.symm.trans again
  cases loaded'.symm.trans again'
  have sessions : (second.play right kept).1 = session := (playSession alike sources).symm
  have leaves := Job.leavesModule finished
  have leaves' := Job.leavesModule finished'
  have saves := Job.savesLast finished
  have saves' := Job.savesLast finished'
  rw [sessions] at leaves' saves'
  refine ⟨sessions, saves, saves', leaves.2, leaves'.2, ?_, ?_, ?_, ?_, ?_, ?_⟩
  · exact (reportFolders first left kept).trans
      (visitsAlike alike ▸ (reportFolders second right kept).symm)
  · exact congrArg (fun ended => ended.store.size) sessions.symm
  · exact congrArg (fun ended => ended.cache.derivations) sessions.symm
  · exact congrArg (fun ended => ended.cache.hits) sessions.symm
  · exact (reportNames first left kept).trans
      (visitsAlike alike ▸ (reportNames second right kept).symm)
  · intro target entry unchanged
    refine ⟨⟨fun member => ?_, fun member => ?_⟩, fun member success => ?_⟩
    · have moved := entryUnchanged alike sources first.target member unchanged
      rwa [target] at moved
    · have moved := entryUnchanged alike.symm sources.symm second.target member unchanged.symm
      rwa [← target] at moved
    · have files := fileUnchanged alike sources target finished finished' member success unchanged
      rwa [sessions] at files

def mended : Collection := ⟨"mended", some chained.outline, []⟩

theorem failureLeavesNoTrace :
    ∃ after report after' report',
      browserJob.run chained ⟨[], []⟩ = (after, .ok report) ∧
      browserJob.run mended ⟨[], []⟩ = (after', .ok report') ∧
      report.failed ≠ report'.failed ∧
      after.readText (browserJob.output.child "variables.js") =
        after'.readText (browserJob.output.child "variables.js") ∧
      ∃ entry ∈ report.entries, entry.number = 3 ∧ entry ∈ report'.entries := by
  obtain ⟨after, report, done, told⟩ := browserEnds
  obtain ⟨after', report', done', failed'⟩ : ∃ after report,
      browserJob.run mended ⟨[], []⟩ = (after, .ok report) ∧ report.failed = 0 :=
    runEnds Report.failed (by decide +kernel)
  have loaded : Archive.read ((⟨[], []⟩ : Workspace).makeDirectories browserJob.output).1
      browserJob.archive = .ok .empty := by decide +kernel
  have alike : chained.outline = mended.outline := rfl
  have sources : browserJob.sources chained = browserJob.sources mended := rfl
  obtain ⟨-, -, -, text, text', -, -, -, -, -, same⟩ :=
    requestsLeaveNoTrace alike sources loaded loaded done done'
  obtain ⟨failed, numbers⟩ := Prod.mk.inj told
  have last : 3 ∈ report.entries.map Entry.number := by
    rw [numbers]
    decide
  obtain ⟨entry, member, number⟩ := List.mem_map.1 last
  refine ⟨after, report, after', report', done, done', ?_, text.trans text'.symm, entry, member,
    number, ?_⟩
  · rw [failed, failed']
    decide
  · refine (same rfl entry ?_).1.1 member
    rw [number]
    rfl

end RequestSuite.Conversion
