import RequestSuite.Proofs.Conversion.Report
import RequestSuite.Proofs.Text.Stem

/-! The files that a completed run leaves. Every test has a place of its own, told by the number of
its node, so nothing comes over a test but the kept variables, when the configuration puts them
there. The module of variables is always there at the end. -/
namespace RequestSuite.Conversion
open Files Variable Suite Text
open Collection (Visit Item)
open Files.Path (IsPlain)

def lastNumber? (names : List String) : Option Nat := names.getLast?.bind Stem.number?

theorem visitPlain {collection : Collection} {visit : Visit}
    (member : visit ∈ collection.visits) : ∀ name ∈ visit.above, IsPlain name := by
  intro name inside
  obtain ⟨number, title, rfl⟩ := collection.visitsAbove member name inside
  exact Stem.plainNumber (Stem.numberOf number title)

theorem fileNumber (target : Target) (visit : Visit) :
    Stem.number? (visit.file target) = some visit.number := by
  rw [Visit.file, Visit.stem, String.append_assoc]
  exact Stem.numberBack visit.number visit.item.name _

namespace Outcome

theorem fileVisit (target : Target) (outcome : Outcome) :
    outcome.file target = outcome.visit.file target := rfl

theorem pathNumber (target : Target) (outcome : Outcome) :
    lastNumber? (outcome.path target) = some outcome.visit.number := by
  rw [lastNumber?, path, List.getLast?_concat, fileVisit, Option.bind_some, fileNumber]

theorem pathPlain {outcome : Outcome} (plain : ∀ name ∈ outcome.visit.above, IsPlain name)
    (target : Target) : ∀ name ∈ outcome.path target, IsPlain name := by
  rw [path, List.forall_mem_append]
  refine ⟨plain, ?_⟩
  intro name last
  rw [List.mem_singleton.1 last, fileVisit]
  exact Stem.plainNumber (fileNumber target outcome.visit)

end Outcome

namespace Job

theorem testWritten {job : Job} {outcomes : List Outcome} {path : Path} {text : String}
    (member : .file path text ∈ outcomes.flatMap job.changesOf) :
    ∃ outcome ∈ outcomes, ∃ artifacts, outcome.result = .written artifacts ∧
      path = job.output.descend (outcome.path job.target) ∧
      text = job.target.render outcome.visit.depth artifacts := by
  obtain ⟨outcome, inside, own⟩ := List.mem_flatMap.1 member
  unfold changesOf at own
  split at own
  · simp at own
  · rename_i artifacts written
    obtain ⟨same, equal⟩ := Change.file.inj (List.mem_singleton.1 own)
    exact ⟨outcome, inside, artifacts, written, same, equal⟩
  · contradiction

def shared (job : Job) : List String :=
  match job.target with
  | .playwright => ["variables.js", "package.json"]
  | .jmeter => ["variables.js"]

theorem sharedNames : IsPlain "variables.js" ∧ IsPlain "package.json" := by
  unfold IsPlain
  decide

theorem sharedPlain (job : Job) : ∀ name ∈ job.shared, IsPlain name ∧ Stem.number? name = none := by
  unfold shared
  cases job.target with
  | playwright =>
    simp only [List.forall_mem_cons]
    exact ⟨⟨sharedNames.1, rfl⟩, ⟨sharedNames.2, rfl⟩, by simp⟩
  | jmeter =>
    simp only [List.forall_mem_cons]
    exact ⟨⟨sharedNames.1, rfl⟩, by simp⟩

theorem packageWritten {job : Job} {path : Path} {text : String}
    (member : .file path text ∈ job.packageChanges) :
    job.target = .playwright ∧ path = job.output.descend ["package.json"] := by
  unfold packageChanges at member
  split at member
  · rename_i same
    exact ⟨same, (Change.file.inj (List.mem_singleton.1 member)).1⟩
  · simp at member

theorem lastWrittenTo {job : Job} {session : Session} {path : Path} {text : String}
    (member : .file path text ∈ job.lastChanges session) :
    path = job.archive ∨ ∃ name ∈ job.shared, path = job.output.descend [name] := by
  rcases List.mem_append.1 member with kept | other
  · have own : Change.file path text = .file job.archive (Archive.render session.finish) := by
      simpa [Archive.changes] using kept
    exact .inl (Change.file.inj own).1
  · rcases List.mem_cons.1 other with module_ | package
    · refine .inr ⟨"variables.js", ?_, (Change.file.inj module_).1⟩
      unfold shared
      cases job.target <;> simp
    · obtain ⟨target, same⟩ := packageWritten package
      exact .inr ⟨"package.json", by simp [shared, target], same⟩

/- The text of a file that was among the changes and is there at the end, unless the kept variables
have the same location. -/
structure Leaves (job : Job) (changes : List Change) (after : Workspace) (names : List String)
    (text : String) : Prop where
  written : .file (job.output.descend names) text ∈ changes
  located : ∃ location, after.locate (job.output.descend names) = .ok location
  there : after.readText (job.output.descend names) = .ok text ∨
    after.locate (job.output.descend names) = after.locate job.archive

theorem changesAt {job : Job} {outcome : Outcome} {artifacts : Artifacts}
    (written : outcome.result = .written artifacts) (session : Session)
    (before rest : List Outcome) :
    job.changes session (before ++ outcome :: rest) =
      before.flatMap job.changesOf ++
        .file (job.output.descend (outcome.path job.target))
          (job.target.render outcome.visit.depth artifacts) ::
        (rest.flatMap job.changesOf ++ job.lastChanges session) := by
  have own : job.changesOf outcome = [.file (job.output.descend (outcome.path job.target))
      (job.target.render outcome.visit.depth artifacts)] := by
    unfold changesOf
    rw [written]
  rw [changes, List.flatMap_append, List.flatMap_cons, own]
  simp only [List.append_assoc, List.cons_append, List.nil_append]

theorem locatedNumber {job : Job} {outcome : Outcome} {after : Workspace} {location : Location}
    (plain : ∀ name ∈ outcome.visit.above, IsPlain name)
    (located : after.locate (job.output.descend (outcome.path job.target)) = .ok location)
    {names : List String} (filled : names ≠ []) (known : ∀ name ∈ names, IsPlain name)
    (again : after.locate (job.output.descend names) = .ok location) :
    lastNumber? names = some outcome.visit.number := by
  have same := Workspace.locateApart (by simp [Outcome.path])
    (Outcome.pathPlain plain job.target) filled known located again
  rw [← same, Outcome.pathNumber]

theorem leavesTest {job : Job} {session : Session} {outcomes : List Outcome}
    {workspace after : Workspace}
    (done : workspace.makeAll (job.changes session outcomes) = (after, none))
    (plain : ∀ outcome ∈ outcomes, ∀ name ∈ outcome.visit.above, IsPlain name)
    (distinct : (outcomes.map fun outcome => outcome.visit.number).Nodup)
    {outcome : Outcome} (member : outcome ∈ outcomes) {artifacts : Artifacts}
    (written : outcome.result = .written artifacts) :
    job.Leaves (job.changes session outcomes) after (outcome.path job.target)
      (job.target.render outcome.visit.depth artifacts) := by
  obtain ⟨before, rest, rfl⟩ := List.append_of_mem member
  rw [changesAt written] at done ⊢
  obtain ⟨⟨location, located⟩, there⟩ := Workspace.lastWritten done
  refine ⟨List.mem_append_right _ List.mem_cons_self, ⟨location, located⟩, ?_⟩
  refine there.imp_right ?_
  rintro ⟨other, content, later, again⟩
  have numbered := @locatedNumber _ _ _ _ (plain outcome member) located
  rcases List.mem_append.1 later with test | last
  · obtain ⟨second, inside, -, -, rfl, -⟩ := testWritten test
    have number := numbered (by simp [Outcome.path])
      (Outcome.pathPlain (plain second (by simp [inside])) job.target) (again.trans located)
    rw [Outcome.pathNumber, Option.some.injEq] at number
    rw [List.map_append, List.map_cons, List.nodup_append] at distinct
    have fresh := (List.nodup_cons.1 distinct.2.1).1
    exact absurd (List.mem_map.2 ⟨second, inside, number⟩) fresh
  · rcases lastWrittenTo last with rfl | ⟨name, shared, rfl⟩
    · exact again.symm
    · obtain ⟨namePlain, unnumbered⟩ := job.sharedPlain name shared
      have number := numbered (List.cons_ne_nil _ _) (Path.plainSingle namePlain)
        (again.trans located)
      rw [lastNumber?, List.getLast?_singleton, Option.bind_some, unnumbered] at number
      cases number

theorem leavesModule {job : Job} {session : Session} {outcomes : List Outcome}
    {workspace after : Workspace}
    (done : workspace.makeAll (job.changes session outcomes) = (after, none)) :
    (∃ location, after.locate (job.output.child "variables.js") = .ok location) ∧
      after.readText (job.output.child "variables.js") = .ok (variablesModule session) := by
  rw [changes, lastChanges, ← List.append_assoc] at done
  obtain ⟨⟨location, located⟩, there⟩ := Workspace.lastWritten done
  refine ⟨⟨location, located⟩, there.resolve_right ?_⟩
  rintro ⟨other, content, later, again⟩
  obtain ⟨-, rfl⟩ := packageWritten later
  have same := Workspace.locateApart (List.cons_ne_nil _ _) (Path.plainSingle sharedNames.1)
    (List.cons_ne_nil _ _) (Path.plainSingle sharedNames.2) located (again.trans located)
  simp at same

theorem leavesPackage {job : Job} {session : Session} {outcomes : List Outcome}
    {workspace after : Workspace} (browser : job.target = .playwright)
    (done : workspace.makeAll (job.changes session outcomes) = (after, none)) :
    after.readText (job.output.child "package.json") = .ok (package job.config).pretty := by
  have split : job.changes session outcomes =
      (outcomes.flatMap job.changesOf ++ (Archive.changes job.archive session.finish ++
        [.file (job.output.child "variables.js") (variablesModule session)])) ++
        [.file (job.output.child "package.json") (package job.config).pretty] := by
    rw [changes, lastChanges, packageChanges, browser]
    simp only [List.append_assoc, List.cons_append, List.nil_append]
  rw [split] at done
  refine (Workspace.lastWritten done).2.resolve_right ?_
  rintro ⟨other, content, later, -⟩
  cases later

structure Saves (job : Job) (changes : List Change) (after : Workspace) (snapshot : Snapshot) :
    Prop where
  written : .file job.archive (Archive.render snapshot) ∈ changes
  there : after.readText job.archive = .ok (Archive.render snapshot) ∨
    ∃ name ∈ job.shared, after.locate (job.output.descend [name]) = after.locate job.archive

theorem savesLast {job : Job} {session : Session} {outcomes : List Outcome}
    {workspace after : Workspace}
    (done : workspace.makeAll (job.changes session outcomes) = (after, none)) :
    job.Saves (job.changes session outcomes) after session.finish := by
  have split : job.changes session outcomes =
      (outcomes.flatMap job.changesOf ++ [.missing job.archive.parent]) ++
        .file job.archive (Archive.render session.finish) ::
        (.file (job.output.child "variables.js") (variablesModule session) ::
          job.packageChanges) := by
    rw [changes, lastChanges, Archive.changes]
    simp only [List.append_assoc, List.cons_append, List.nil_append]
  rw [split] at done ⊢
  obtain ⟨-, there⟩ := Workspace.lastWritten done
  refine ⟨List.mem_append_right _ List.mem_cons_self, there.imp_right ?_⟩
  rintro ⟨other, content, later, again⟩
  rcases List.mem_cons.1 later with own | package
  · refine ⟨"variables.js", by unfold shared; cases job.target <;> simp, ?_⟩
    rw [← again, (Change.file.inj own).1]
    rfl
  · obtain ⟨target, rfl⟩ := packageWritten package
    exact ⟨"package.json", by simp [shared, target], again⟩

end Job

end RequestSuite.Conversion
