import RequestSuite.Proofs.Conversion.Numbering
import RequestSuite.Proofs.Files.Ways
import RequestSuite.Proofs.Variable.RoundTrip

/-! The kept variables after a run. Two files are written after them, so a configured name that leads
to one of these loses what was exported: the module of variables is no JSON, and no run can begin
until it is taken away, while the members of the package file come back as if they were variables.
Under every other name the exported variables come back. -/
namespace RequestSuite.Conversion
open Files Variable Suite Text
open Files.Path (IsPlain)

/- Which of the files that a run writes last is at the place of the kept variables when it ends. -/
inductive Survivor where
  | exported
  | variablesModule
  | package
  deriving DecidableEq, Repr

namespace Job

def survivor (job : Job) (after : Workspace) : Survivor :=
  if after.locate job.archive = after.locate (job.output.child "variables.js") then .variablesModule
  else if job.target = .playwright ∧
      after.locate job.archive = after.locate (job.output.child "package.json") then .package
  else .exported

def packageSnapshot (config : Config) : Snapshot :=
  NameMap.ofList
    [("name", .text config.packageName), ("version", .text "1.0.0"),
      ("scripts", .text (Json.Value.object [("test", .string "playwright test")]).compact),
      ("dependencies", .text
        (Json.Value.object [("@playwright/test", .string config.playwrightVersion)]).compact)]

end Job

namespace Survivor

def text (job : Job) (session : Session) : Survivor → String
  | exported => Archive.render session.finish
  | variablesModule => Job.variablesModule session
  | package => (Job.package job.config).pretty

def handedOn (job : Job) (session : Session) : Survivor → Except Failure Snapshot
  | exported => .ok session.finish
  | variablesModule => .error .json
  | package => .ok (Job.packageSnapshot job.config)

end Survivor

namespace Job

theorem moduleUnread (session : Session) :
    Archive.ofText (variablesModule session) = .error .json := by
  have longer : ∀ {text : String}, (∃ rest, text.toList = 'e' :: rest) → ∀ more : String,
      ∃ rest, (text ++ more).toList = 'e' :: rest := by
    rintro text ⟨rest, begins⟩ more
    exact ⟨rest ++ more.toList, by rw [String.toList_append, begins, List.cons_append]⟩
  have word : "export const variables = ".toList = 'e' :: "xport const variables = ".toList := by
    decide
  obtain ⟨rest, begins⟩ : ∃ rest, (variablesModule session).toList = 'e' :: rest :=
    longer (longer ⟨_, word⟩ _) _
  have letter : 'e' ∈ (variablesModule session).toList := by
    rw [begins]
    exact List.mem_cons_self
  have stuck : Json.Value.ofText? (variablesModule session) = none :=
    Json.Value.unreadStart (by decide) rfl begins
  rw [Archive.ofFilled letter (by decide), stuck]

theorem packageRead (config : Config) :
    Archive.ofText (package config).pretty = .ok (packageSnapshot config) := by
  have brace : '\x7b' ∈ (package config).pretty.toList := by
    rw [Json.Value.pretty, String.toList_ofList]
    exact List.mem_cons_self
  have lexical : (package config).IsLexical :=
    ⟨trivial, trivial, ⟨trivial, trivial⟩, ⟨trivial, trivial⟩, trivial⟩
  have readable : (package config).IsReadable Json.Value.maxLevels := by
    have names : ((["name", "version", "scripts", "dependencies"] : List String)).Nodup := by decide
    have single : ∀ name : String, [name].Nodup := fun _ => List.pairwise_singleton _ _
    exact ⟨names, trivial, trivial, ⟨single _, trivial, trivial⟩, ⟨single _, trivial, trivial⟩,
      trivial⟩
  have back : Json.Value.ofText? (package config).pretty = some (package config) := by
    have nothing : ∀ c ∈ "".toList, Json.isSpace c = true :=
      fun c member => absurd member List.not_mem_nil
    have read := Json.Value.textBack lexical readable nothing
    rwa [String.append_empty] at read
  rw [Archive.ofFilled brace (by decide), back]
  rfl

theorem survivorRead (job : Job) {session : Session} (exact : session.finish.IsExact)
    (survivor : Survivor) :
    Archive.ofText (survivor.text job session) = survivor.handedOn job session := by
  cases survivor with
  | exported => exact Archive.renderBack exact
  | variablesModule => exact moduleUnread session
  | package => exact packageRead job.config

theorem survivorText {job : Job} {session : Session} {outcomes : List Outcome}
    {workspace after : Workspace}
    (done : workspace.makeAll (job.changes session outcomes) = (after, none)) :
    after.readText job.archive = .ok ((job.survivor after).text job session) := by
  have saves := savesLast done
  have unslashed := (Workspace.writtenPlace done saves.written).2
  unfold survivor
  split
  · rename_i same
    exact Workspace.readTogether same unslashed (leavesModule done).2
  rename_i apart
  split
  · rename_i same
    exact Workspace.readTogether same.2 unslashed (leavesPackage same.1 done)
  rename_i other
  refine saves.there.resolve_right ?_
  rintro ⟨name, shared, same⟩
  unfold Job.shared at shared
  cases browser : job.target with
  | playwright =>
    rw [browser] at shared
    rcases List.mem_cons.1 shared with rfl | second
    · exact apart same.symm
    · rw [List.mem_singleton.1 second] at same
      exact other ⟨browser, same.symm⟩
  | jmeter =>
    rw [browser] at shared
    rw [List.mem_singleton.1 shared] at same
    exact apart same.symm

theorem survivorPlain {job : Job} {session : Session} {outcomes : List Outcome}
    {workspace after : Workspace}
    (done : workspace.makeAll (job.changes session outcomes) = (after, none))
    (plain : IsPlain job.config.variablesFile) (single : '/' ∉ job.config.variablesFile.toList)
    (own : job.config.variablesFile ∉ job.shared) : job.survivor after = .exported := by
  have named : job.archive = job.output.descend [job.config.variablesFile] := by
    have parts : Path.ofText job.config.variablesFile = ⟨[job.config.variablesFile]⟩ := by
      rw [Path.ofText, splitAtWhole single, List.map_singleton, String.ofList_toList]
    rw [archive, parts]
    rfl
  obtain ⟨location, located⟩ := (Workspace.writtenPlace done (savesLast done).written).1
  have apart : ∀ name ∈ job.shared,
      after.locate job.archive ≠ after.locate (job.output.child name) := by
    intro name shared same
    rw [located] at same
    rw [named] at located
    have equal := Workspace.locateApart (List.cons_ne_nil _ _) (Path.plainSingle plain)
      (List.cons_ne_nil _ _) (Path.plainSingle (job.sharedPlain name shared).1) located same.symm
    rw [List.singleton_inj.1 equal] at own
    exact own shared
  have module_ : "variables.js" ∈ job.shared := by
    unfold shared
    cases job.target <;> simp
  rw [survivor, if_neg (apart _ module_), if_neg]
  rintro ⟨browser, same⟩
  exact apart "package.json" (by simp [shared, browser]) same

end Job

theorem unreadNext {job later : Job} {collection : Collection} {workspace after : Workspace}
    {report : Report} {failure : Failure}
    (done : job.run collection workspace = (after, .ok report))
    (unread : Archive.read after job.archive = .error failure) (output : later.output = job.output)
    (archive : later.archive = job.archive) (next : Collection) :
    later.run next after = (after, .error failure) := by
  obtain ⟨made, kept, ready, -, finished, -⟩ := runDone done
  have again := Workspace.makeDirectoriesAgain ready (Workspace.makeAllKeeps finished)
  rw [Job.run, output, again]
  simp only [archive, unread]

theorem moduleLost {job : Job} {collection : Collection} {workspace after : Workspace}
    {report : Report} (done : job.run collection workspace = (after, .ok report))
    (lost : job.survivor after = .variablesModule) :
    Archive.read after job.archive = .error .json := by
  obtain ⟨made, kept, -, -, finished, -⟩ := runDone done
  rw [Archive.read, Job.survivorText finished, lost]
  exact Job.moduleUnread _

theorem keptUnlessOverwritten {job : Job} {collection : Collection} {workspace after : Workspace}
    {report : Report} (done : job.run collection workspace = (after, .ok report)) :
    ∃ kept, Archive.read (workspace.makeDirectories job.output).1 job.archive = .ok kept ∧
      let session := (job.play collection kept).1
      let survivor := job.survivor after
      after.readText job.archive = .ok (survivor.text job session) ∧
      (session.finish.IsExact →
        Archive.read after job.archive = survivor.handedOn job session) ∧
      (IsPlain job.config.variablesFile → '/' ∉ job.config.variablesFile.toList →
        job.config.variablesFile ∉ job.shared → survivor = .exported) ∧
      (survivor = .variablesModule → ∀ later : Job, later.output = job.output →
        later.archive = job.archive → ∀ next, later.run next after = (after, .error .json)) := by
  obtain ⟨made, kept, ready, loaded, finished, -⟩ := runDone done
  have text := Job.survivorText finished
  refine ⟨kept, by rw [ready]; exact loaded, text, ?_, ?_, ?_⟩
  · intro exactly
    rw [Archive.read, text]
    exact job.survivorRead exactly _
  · exact Job.survivorPlain finished
  · intro lost later output archive next
    exact unreadNext done (moduleLost done lost) output archive next

theorem assignedComeBack :
    ∃ after report, browserJob.run chained ⟨[], []⟩ = (after, .ok report) ∧
      Archive.read after browserJob.archive =
        .ok (.ofList [("a", .text "one"), ("b", .text "two")]) := by
  obtain ⟨after, report, done, -⟩ := browserEnds
  obtain ⟨kept, loaded, -, read, own, -⟩ := keptUnlessOverwritten done
  have nothing : kept = .empty := by
    have fresh : Archive.read ((⟨[], []⟩ : Workspace).makeDirectories browserJob.output).1
        browserJob.archive = .ok .empty := rfl
    exact Except.ok.inj (loaded.symm.trans fresh)
  subst nothing
  have finish : (browserJob.play chained .empty).1.finish =
      .ofList [("a", .text "one"), ("b", .text "two")] := by decide +kernel
  have survivor := own (by unfold IsPlain; decide) (by decide) (by decide)
  rw [finish] at read
  refine ⟨after, report, done, ?_⟩
  rw [read (by decide), survivor, Survivor.handedOn, finish]

def moduleJob : Job :=
  { browserJob with config := { Config.default with variablesFile := "variables.js" } }

theorem secondRunStopped :
    ∃ after report, moduleJob.run ⟨"none", some [], []⟩ ⟨[], []⟩ = (after, .ok report) ∧
      Archive.read after moduleJob.archive = .error .json ∧
      moduleJob.run ⟨"none", some [], []⟩ after = (after, .error .json) := by
  obtain ⟨after, report, done, -⟩ : ∃ after report,
      moduleJob.run ⟨"none", some [], []⟩ ⟨[], []⟩ = (after, .ok report) ∧ report.failed = 0 :=
    runEnds Report.failed (by decide +kernel)
  have place : moduleJob.archive = moduleJob.output.child "variables.js" := by decide
  have lost : moduleJob.survivor after = .variablesModule := by
    rw [Job.survivor, place, if_pos rfl]
  have unread := moduleLost done lost
  exact ⟨after, report, done, unread, unreadNext done unread rfl rfl _⟩

end RequestSuite.Conversion
