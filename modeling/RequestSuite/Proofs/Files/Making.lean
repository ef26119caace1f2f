import RequestSuite.Files.Change
import RequestSuite.Proofs.Files.Directory

/-! What changes do to a tree of files. A directory that is there stays one, so a path that leads
somewhere keeps leading there, and making directories touches nothing that is there. A file holds
what was last written to its location. -/
namespace RequestSuite.Files.Workspace
open Files.Path (IsPlain isName)

structure Keeps (before after : Workspace) : Prop where
  current : after.current = before.current
  directories : ∀ location, before.entry? location = some .directory →
    after.entry? location = some .directory

theorem Keeps.refl (workspace : Workspace) : Keeps workspace workspace :=
  ⟨rfl, fun _ there => there⟩

theorem Keeps.trans {first second third : Workspace} (early : Keeps first second)
    (late : Keeps second third) : Keeps first third :=
  ⟨late.current.trans early.current,
    fun location there => late.directories location (early.directories location there)⟩

theorem Keeps.enter {before after : Workspace} (keeps : Keeps before after)
    {here next : Location} {name : String} (entered : before.enter here name = .ok next) :
    after.enter here name = .ok next := by
  by_cases up : name = ".."
  · rw [Workspace.enter, if_pos up] at entered ⊢
    exact entered
  · obtain ⟨same, short, there⟩ := enterPlain up entered
    rw [same]
    exact enterDirectory up short (keeps.directories _ there)

theorem Keeps.enterAll {before after : Workspace} (keeps : Keeps before after)
    {here last : Location} {names : List String}
    (entered : names.foldlM before.enter here = .ok last) :
    names.foldlM after.enter here = .ok last := by
  induction names generalizing here with
  | nil => exact entered
  | cons name rest ih =>
    rw [List.foldlM_cons] at entered ⊢
    cases first : before.enter here name with
    | error fault => simp [first, bind, Except.bind] at entered
    | ok next =>
      rw [first] at entered
      rw [keeps.enter first]
      exact ih entered

theorem Keeps.origin {before after : Workspace} (keeps : Keeps before after)
    (path : Path) : after.origin path = before.origin path := by
  rw [Workspace.origin, keeps.current, Workspace.origin]

theorem Keeps.directoryAt {before after : Workspace} (keeps : Keeps before after)
    {path : Path} {here : Location} (leads : before.directoryAt path = .ok here) :
    after.directoryAt path = .ok here := by
  rw [Workspace.directoryAt, keeps.origin]
  exact keeps.enterAll leads

theorem Keeps.locate {before after : Workspace} (keeps : Keeps before after)
    {path : Path} {location : Location} (located : before.locate path = .ok location) :
    after.locate path = .ok location := by
  have begins : after.start path = before.start path := by
    unfold Workspace.start
    rw [keeps.current]
  unfold Workspace.locate at located ⊢
  rw [begins]
  cases started : before.start path with
  | error fault => simp [started, bind, Except.bind] at located
  | ok start =>
    simp only [started, bind, Except.bind] at located ⊢
    split at located
    · exact located
    · split at located
      · rename_i lower
        rw [if_pos lower]
        exact keeps.enterAll located
      · rename_i lower
        rw [if_neg lower]
        cases above : path.names.dropLast.foldlM before.enter start with
        | error fault => simp [above] at located
        | ok here =>
          rw [above] at located
          rw [keeps.enterAll above]
          exact located

theorem entryPut (workspace : Workspace) {location : Location} (below : location ≠ [])
    (entry : Entry) (other : Location) :
    Workspace.entry? (workspace.put location entry) other =
      if other = location then some entry else workspace.entry? other := by
  cases other with
  | nil => rw [if_neg (Ne.symm below)]; rfl
  | cons first rest =>
    split
    · rename_i same
      rw [← same]
      exact lookupPutSame (first :: rest) entry workspace.entries
    · rename_i different
      exact lookupPutOther entry workspace.entries different

theorem belowRoot {workspace : Workspace} {location : Location}
    (other : workspace.entry? location ≠ some .directory) : location ≠ [] := by
  rintro rfl
  exact other rfl

structure Wrote (before : Workspace) (path : Path) (text : String) (location : Location)
    (after : Workspace) : Prop where
  located : before.locate path = .ok location
  unslashed : path.endsInSlash = false
  free : before.entry? location ≠ some .directory
  result : after = before.put location (.file text.toUTF8)

theorem unslashedPut {slash : Bool} {fault : Fault} {written after : Workspace}
    (done : (if slash then throw fault else pure written : Except Fault Workspace) = .ok after) :
    slash = false ∧ after = written := by
  cases slash with
  | true => cases done
  | false => exact ⟨rfl, (Except.ok.inj done).symm⟩

theorem wroteFile {before after : Workspace} {path : Path} {text : String}
    (done : before.make (.file path text) = (after, none)) :
    ∃ location, Wrote before path text location after := by
  unfold make at done
  cases wrote : before.writeText path text with
  | error fault => simp [wrote] at done
  | ok written =>
    simp only [wrote, Prod.mk.injEq, and_true] at done
    unfold writeText writeBytes at wrote
    cases located : before.locate path with
    | error fault => simp [located, bind, Except.bind] at wrote
    | ok location =>
      simp only [located, bind, Except.bind] at wrote
      split at wrote
      · cases wrote
      · rename_i content there
        obtain ⟨slash, same⟩ := unslashedPut wrote
        exact ⟨location, located, slash, by simp [there], done.symm.trans same⟩
      · rename_i missing
        obtain ⟨slash, same⟩ := unslashedPut wrote
        exact ⟨location, located, slash, by simp [missing], done.symm.trans same⟩

structure AddsDirectories (before after : Workspace) : Prop where
  current : after.current = before.current
  entries : ∀ location, after.entry? location = before.entry? location ∨
    before.entry? location = none ∧ after.entry? location = some .directory

theorem AddsDirectories.refl (workspace : Workspace) : AddsDirectories workspace workspace :=
  ⟨rfl, fun _ => .inl rfl⟩

theorem AddsDirectories.files {before after : Workspace} (adds : AddsDirectories before after)
    (location : Location) (content : ByteArray) :
    after.entry? location = some (.file content) ↔
      before.entry? location = some (.file content) := by
  rcases adds.entries location with same | ⟨missing, there⟩
  · rw [same]
  · rw [missing, there]
    simp

theorem AddsDirectories.trans {first second third : Workspace}
    (early : AddsDirectories first second) (late : AddsDirectories second third) :
    AddsDirectories first third := by
  refine ⟨late.current.trans early.current, ?_⟩
  intro location
  rcases late.entries location with same | ⟨missing, there⟩
  · rcases early.entries location with old | ⟨missing, there⟩
    · exact .inl (same.trans old)
    · exact .inr ⟨missing, same.trans there⟩
  · rcases early.entries location with old | ⟨-, there'⟩
    · exact .inr ⟨old.symm.trans missing, there⟩
    · rw [there'] at missing
      contradiction

theorem AddsDirectories.keeps {before after : Workspace} (adds : AddsDirectories before after) :
    Keeps before after := by
  refine ⟨adds.current, ?_⟩
  intro location there
  rcases adds.entries location with same | ⟨-, made⟩
  · exact same.trans there
  · exact made

theorem madeDirectory {before after : Workspace} {path : Path}
    (done : before.makeDirectory path = .ok after) :
    ∃ location, before.locate path = .ok location ∧ before.entry? location = none ∧
      after = before.put location .directory := by
  unfold makeDirectory at done
  cases located : before.locate path with
  | error fault => simp [located, bind, Except.bind] at done
  | ok location =>
    simp only [located, bind, Except.bind] at done
    cases there : before.entry? location with
    | none =>
      rw [there] at done
      exact ⟨location, rfl, there, (Except.ok.inj done).symm⟩
    | some entry =>
      rw [there] at done
      contradiction

theorem putDirectory {workspace : Workspace} {location : Location}
    (missing : workspace.entry? location = none) :
    AddsDirectories workspace (workspace.put location .directory) := by
  have other : workspace.entry? location ≠ some .directory := by simp [missing]
  have below := belowRoot other
  refine ⟨rfl, ?_⟩
  intro other
  rw [entryPut workspace below]
  split
  · rename_i same
    exact .inr ⟨same ▸ missing, rfl⟩
  · exact .inl rfl

theorem ensureDirectoryAdds (workspace : Workspace) (path : Path) :
    AddsDirectories workspace (workspace.ensureDirectory path).1 := by
  unfold ensureDirectory
  cases made : workspace.makeDirectory path with
  | error fault => exact .refl workspace
  | ok after =>
    obtain ⟨location, -, missing, rfl⟩ := madeDirectory made
    exact putDirectory missing

theorem ensureFromAdds (workspace : Workspace) (fuel : Nat) (path : Path) :
    AddsDirectories workspace (workspace.ensureFrom fuel path).1 := by
  induction fuel generalizing path with
  | zero => exact .refl workspace
  | succ fuel ih =>
    unfold ensureFrom
    split
    · exact .refl workspace
    · rename_i above found
      split
      · rename_i after made
        obtain ⟨location, -, missing, rfl⟩ := madeDirectory made
        exact putDirectory missing
      · have upper := ih above
        split
        · rename_i made ensured
          rw [ensured] at upper
          exact upper.trans (ensureDirectoryAdds made path)
        · rename_i failed _
          exact upper
      · exact .refl workspace

theorem makeDirectoriesAdds (workspace : Workspace) (path : Path) :
    AddsDirectories workspace (workspace.makeDirectories path).1 :=
  ensureFromAdds workspace (path.parts.length + 1) path

theorem supplyDirectoryCases (workspace : Workspace) (path : Path) :
    workspace.supplyDirectory path = (workspace, none) ∨
      workspace.supplyDirectory path = workspace.makeDirectories path := by
  unfold supplyDirectory
  split
  · exact .inl rfl
  · exact .inr rfl

theorem supplyDirectoryAdds (workspace : Workspace) (path : Path) :
    AddsDirectories workspace (workspace.supplyDirectory path).1 := by
  obtain there | made := workspace.supplyDirectoryCases path
  · rw [there]
    exact .refl workspace
  · rw [made]
    exact workspace.makeDirectoriesAdds path

theorem makeCases {before after : Workspace} {change : Change}
    (done : before.make change = (after, none)) :
    AddsDirectories before after ∨
      ∃ path text location, change = .file path text ∧ Wrote before path text location after := by
  cases change with
  | directory path =>
    have adds := makeDirectoriesAdds before path
    have made : before.makeDirectories path = (after, none) := done
    rw [made] at adds
    exact .inl adds
  | missing path =>
    have adds := supplyDirectoryAdds before path
    have made : before.supplyDirectory path = (after, none) := done
    rw [made] at adds
    exact .inl adds
  | file path text =>
    obtain ⟨location, wrote⟩ := wroteFile done
    exact .inr ⟨path, text, location, rfl, wrote⟩

theorem makeKeeps {before after : Workspace} {change : Change}
    (done : before.make change = (after, none)) : Keeps before after := by
  obtain adds | ⟨path, text, location, rfl, wrote⟩ := makeCases done
  · exact adds.keeps
  · refine ⟨by rw [wrote.result]; rfl, ?_⟩
    intro other there
    rw [wrote.result, entryPut before (belowRoot wrote.free), if_neg]
    · exact there
    · rintro rfl
      exact wrote.free there

theorem makeAllStep {before after : Workspace} {change : Change} {rest : List Change}
    (done : before.makeAll (change :: rest) = (after, none)) :
    ∃ made, before.make change = (made, none) ∧ made.makeAll rest = (after, none) := by
  rw [makeAll] at done
  split at done
  · rename_i made first
    exact ⟨made, first, done⟩
  · rename_i other
    exact absurd done (other after)

theorem makeAllSplit {workspace after : Workspace} {before rest : List Change}
    (done : workspace.makeAll (before ++ rest) = (after, none)) :
    ∃ made, workspace.makeAll before = (made, none) ∧ made.makeAll rest = (after, none) := by
  rw [makeAllAppend] at done
  split at done
  · rename_i made first
    exact ⟨made, first, done⟩
  · rename_i other
    exact absurd done (other after)

theorem makeAllKeeps {before after : Workspace} {changes : List Change}
    (done : before.makeAll changes = (after, none)) : Keeps before after := by
  induction changes generalizing before with
  | nil =>
    cases done
    exact .refl _
  | cons change rest ih =>
    obtain ⟨made, first, later⟩ := makeAllStep done
    exact (makeKeeps first).trans (ih later)

theorem fileStays {before after : Workspace} {changes : List Change} {location : Location}
    {content : ByteArray} (done : before.makeAll changes = (after, none))
    (there : before.entry? location = some (.file content))
    (apart : ∀ path text, .file path text ∈ changes → after.locate path ≠ .ok location) :
    after.entry? location = some (.file content) := by
  induction changes generalizing before with
  | nil =>
    cases done
    exact there
  | cons change rest ih =>
    obtain ⟨made, first, later⟩ := makeAllStep done
    refine ih later ?_ fun path text member => apart path text (List.mem_cons_of_mem _ member)
    obtain adds | ⟨path, text, written, rfl, wrote⟩ := makeCases first
    · exact (adds.files location content).2 there
    · have located := ((makeKeeps first).trans (makeAllKeeps later)).locate wrote.located
      rw [wrote.result, entryPut before (belowRoot wrote.free), if_neg]
      · exact there
      · rintro rfl
        exact apart path text List.mem_cons_self located

theorem bytesBack {workspace : Workspace} {path : Path} {location : Location} {content : ByteArray}
    (located : workspace.locate path = .ok location) (unslashed : path.endsInSlash = false)
    (there : workspace.entry? location = some (.file content)) :
    workspace.readBytes path = .ok content := by
  unfold readBytes find?
  simp [located, there, unslashed, bind, Except.bind, pure, Except.pure]

theorem textBack {workspace : Workspace} {path : Path} {text : String}
    (found : workspace.readBytes path = .ok text.toUTF8) : workspace.readText path = .ok text := by
  have decoded : String.fromUTF8? text.toUTF8 = some text := dif_pos text.isValidUTF8
  simp only [readText, found, decoded, bind, Except.bind, pure, Except.pure]

theorem readBack {workspace : Workspace} {path : Path} {location : Location} {text : String}
    (located : workspace.locate path = .ok location) (unslashed : path.endsInSlash = false)
    (there : workspace.entry? location = some (.file text.toUTF8)) :
    workspace.readText path = .ok text :=
  textBack (bytesBack located unslashed there)

theorem writtenPlace {workspace after : Workspace} {changes : List Change} {path : Path}
    {text : String} (done : workspace.makeAll changes = (after, none))
    (member : .file path text ∈ changes) :
    (∃ location, after.locate path = .ok location) ∧ path.endsInSlash = false := by
  obtain ⟨before, rest, rfl⟩ := List.append_of_mem member
  obtain ⟨ready, -, now⟩ := makeAllSplit done
  obtain ⟨made, first, later⟩ := makeAllStep now
  obtain ⟨location, wrote⟩ := wroteFile first
  have keeps := (makeKeeps first).trans (makeAllKeeps later)
  exact ⟨⟨location, keeps.locate wrote.located⟩, wrote.unslashed⟩

theorem fileRead {workspace : Workspace} {path : Path} {content : ByteArray}
    (found : workspace.readBytes path = .ok content) :
    ∃ location, workspace.locate path = .ok location ∧
      workspace.entry? location = some (.file content) := by
  unfold readBytes find? at found
  cases located : workspace.locate path with
  | error fault => simp [located, bind, Except.bind] at found
  | ok location =>
    simp only [located, bind, Except.bind, pure, Except.pure] at found
    cases there : workspace.entry? location with
    | none => simp [there, throw, throwThe, MonadExceptOf.throw] at found
    | some entry =>
      cases entry with
      | directory => simp [there, throw, throwThe, MonadExceptOf.throw] at found
      | file other =>
        simp only [there] at found
        split at found
        · cases found
        · cases found
          exact ⟨location, rfl, there⟩

theorem readTogether {workspace : Workspace} {path other : Path} {text : String}
    (same : workspace.locate path = workspace.locate other) (unslashed : path.endsInSlash = false)
    (found : workspace.readText other = .ok text) : workspace.readText path = .ok text := by
  rw [readText] at found ⊢
  cases bytes : workspace.readBytes other with
  | error fault => simp [bytes, bind, Except.bind] at found
  | ok content =>
    obtain ⟨location, located, there⟩ := fileRead bytes
    rw [bytesBack (same.trans located) unslashed there]
    rwa [bytes] at found

/- A file holds at the end what was written to it, unless a later change came to its location. -/
theorem lastWritten {workspace after : Workspace} {before rest : List Change} {path : Path}
    {text : String} (done : workspace.makeAll (before ++ .file path text :: rest) = (after, none)) :
    (∃ location, after.locate path = .ok location) ∧
      (after.readText path = .ok text ∨
        ∃ other content, .file other content ∈ rest ∧ after.locate other = after.locate path) := by
  obtain ⟨ready, -, now⟩ := makeAllSplit done
  obtain ⟨made, first, later⟩ := makeAllStep now
  obtain ⟨location, wrote⟩ := wroteFile first
  have located := ((makeKeeps first).trans (makeAllKeeps later)).locate wrote.located
  have there : made.entry? location = some (.file text.toUTF8) := by
    rw [wrote.result, entryPut ready (belowRoot wrote.free), if_pos rfl]
  refine ⟨⟨location, located⟩, or_iff_not_imp_right.2 ?_⟩
  intro last
  refine readBack located wrote.unslashed (fileStays later there ?_)
  intro other content member again
  exact last ⟨other, content, member, again.trans located.symm⟩

end RequestSuite.Files.Workspace
