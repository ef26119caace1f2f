import RequestSuite.Proofs.Files.Ways

/-! A file saved in a directory that is made first. It can be saved wherever nothing but directories,
or nothing at all, stands on the way and no directory stands at its own place; what it held before
does not matter, and it then holds what was saved. -/
namespace RequestSuite.Files.Workspace

def AboveFile (workspace : Workspace) (path : Path) (location : Location) : Prop :=
  ∃ names, names <+: path.names.dropLast ∧ location = follow (workspace.origin path) names

/- The state of a path at which a file is there or can be made: the system accepts the path and its
names, the path does not say that a directory is meant, and it does not lead through itself. -/
structure Savable (workspace : Workspace) (path : Path) : Prop where
  start : workspace.start path = .ok (workspace.origin path)
  short : ∀ name ∈ path.names, name.utf8ByteSize ≤ maxName
  unslashed : path.endsInSlash = false
  undotted : path.endsInDot = false
  clear : ∀ location content, workspace.AboveFile path location →
    workspace.entry? location ≠ some (.file content)
  apart : ¬ workspace.AboveFile path (follow (workspace.origin path) path.names)
  free : workspace.entry? (follow (workspace.origin path) path.names) ≠ some .directory

theorem apartPlain (workspace : Workspace) {path : Path} (filled : path.names ≠ [])
    (plain : ".." ∉ path.names) :
    ¬ workspace.AboveFile path (follow (workspace.origin path) path.names) := by
  rintro ⟨names, front, same⟩
  have inside : names <+: path.names := front.trans (List.dropLast_prefix _)
  have upper : ".." ∉ names := fun member => plain (inside.subset member)
  rw [followPlain _ plain, followPlain _ upper] at same
  have shorter := front.length_le
  rw [← List.append_cancel_left same, List.length_dropLast] at shorter
  have some := List.length_pos_iff.2 filled
  omega

theorem Savable.parent {workspace : Workspace} {path : Path} (savable : workspace.Savable path) :
    Path.IsParent path path.parent := by
  unfold Path.parent
  cases found : path.parent? with
  | some above => exact Path.parentOf found
  | none =>
    have bare := Path.parentNone found
    exact absurd ⟨[], List.nil_prefix, by rw [bare]⟩ savable.apart

theorem OnWay.aboveFile {workspace : Workspace} {path above : Path} {location : Location}
    (parent : Path.IsParent path above) (way : workspace.OnWay above location) :
    workspace.AboveFile path location := by
  obtain ⟨names, front, same⟩ := way
  rw [parent.names] at front
  refine ⟨names, front, ?_⟩
  rw [same, origin, parent.absolute]
  rfl

theorem Savable.makesParent {workspace : Workspace} {path : Path}
    (savable : workspace.Savable path) :
    ∃ made, workspace.makeDirectories path.parent = (made, none) ∧
      workspace.supplyDirectory path.parent = (made, none) := by
  have parent := savable.parent
  rw [supplyDirectoryUnfiled fun location content located =>
    savable.clear location content (OnWay.aboveFile parent
      ⟨path.parent.names, List.prefix_rfl, (locateLeads located).2.1⟩)]
  simp only [and_self]
  rcases startParent savable.start parent with bare | started
  · rw [bare]
    exact ⟨workspace, emptyDirectory workspace _⟩
  · refine makeDirectoriesDone ⟨started, ?_, ?_, parent.undotted⟩
    · intro name member
      rw [parent.names] at member
      exact savable.short name (List.dropLast_subset _ member)
    · intro location content way
      exact savable.clear location content (way.aboveFile parent)

theorem writePlaced {workspace : Workspace} {path : Path} {location : Location}
    (located : workspace.locate path = .ok location) (unslashed : path.endsInSlash = false)
    (free : workspace.entry? location ≠ some .directory) (text : String) :
    ∃ written, workspace.make (.file path text) = (written, none) := by
  have wrote : workspace.writeText path text =
      .ok (workspace.put location (.file text.toUTF8)) := by
    unfold writeText writeBytes
    rw [located]
    cases there : workspace.entry? location with
    | none => simp only [bind, Except.bind, there, unslashed, Bool.false_eq_true, if_false]; rfl
    | some entry =>
      cases entry with
      | directory => exact absurd there free
      | file content =>
        simp only [bind, Except.bind, there, unslashed, Bool.false_eq_true, if_false]; rfl
  exact ⟨_, by rw [make, wrote]⟩

/- Making the directory puts nothing at the place of the file, as the path does not lead past it. -/
theorem saveDone {workspace : Workspace} {path : Path} (savable : workspace.Savable path)
    (text : String) :
    ∃ saved, workspace.makeAll [.missing path.parent, .file path text] = (saved, none) := by
  obtain ⟨made, ready, supplied⟩ := savable.makesParent
  have parent := savable.parent
  have adds := makeDirectoriesAdds workspace path.parent
  have along := makeDirectoriesWay workspace path.parent
  rw [ready] at adds along
  obtain ⟨here, leads⟩ := makeDirectoriesLeads ready
  obtain ⟨location, located⟩ := locateBelowParent (adds.start savable.start) parent
    savable.undotted savable.short leads
  have own := (locateLeads located).2.1
  rw [adds.keeps.origin] at own
  have same : made.entry? location = workspace.entry? location := by
    by_contra changed
    exact savable.apart (own ▸ (along location changed).aboveFile parent)
  have free : made.entry? location ≠ some .directory := by
    rw [same, own]
    exact savable.free
  obtain ⟨written, wrote⟩ := writePlaced located savable.unslashed free text
  have first : workspace.make (.missing path.parent) = (made, none) := supplied
  refine ⟨written, ?_⟩
  rw [makeAll, first]
  simp only [makeAll, wrote]

theorem savedText {before after : Workspace} {changes : List Change} {path : Path} {text : String}
    (done : before.makeAll (changes ++ [.file path text]) = (after, none)) :
    after.readBytes path = .ok text.toUTF8 ∧ after.readText path = .ok text := by
  obtain ⟨made, -, last⟩ := makeAllSplit done
  obtain ⟨saved, written, stays⟩ := makeAllStep last
  cases stays
  obtain ⟨location, wrote⟩ := wroteFile written
  have located := (makeKeeps written).locate wrote.located
  have there : after.entry? location = some (.file text.toUTF8) := by
    rw [wrote.result, entryPut made (belowRoot wrote.free), if_pos rfl]
  have found := bytesBack located wrote.unslashed there
  exact ⟨found, textBack found⟩

end RequestSuite.Files.Workspace
