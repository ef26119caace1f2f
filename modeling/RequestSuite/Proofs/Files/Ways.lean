import RequestSuite.Proofs.Files.Parents
import RequestSuite.Proofs.Files.Places

/-! Directories made along a path. A path leads where its names lead, and what is made for it lies on
the way. With nothing but directories on the way, and names that are not too long, all that is
missing can be made. -/
namespace RequestSuite.Files
open Text
open Files.Path (IsPlain isName)

def follow (here : Location) (names : List String) : Location :=
  names.foldl (fun found name => if name = ".." then found.dropLast else found ++ [name]) here

theorem followAppend (here : Location) (before after : List String) :
    follow here (before ++ after) = follow (follow here before) after :=
  List.foldl_append

theorem followPlain (here : Location) {names : List String} (plain : ".." ∉ names) :
    follow here names = here ++ names := by
  induction names generalizing here with
  | nil => exact (List.append_nil here).symm
  | cons name rest ih =>
    obtain ⟨first, later⟩ := not_or.1 (List.mem_cons.not.1 plain)
    have below := ih (here ++ [name]) later
    rw [List.append_assoc, List.singleton_append] at below
    rw [← below, follow, List.foldl_cons, if_neg (Ne.symm first)]
    rfl

theorem climbBack (here above : Location) {name : String} (plain : name ≠ "..") :
    follow (here ++ above) (List.replicate above.length ".." ++ [name]) = here ++ [name] := by
  induction above using List.reverseRecOn with
  | nil => simp [follow, plain]
  | append_singleton before last ih =>
    rw [List.length_append, List.length_singleton, List.replicate_succ, ← List.append_assoc]
    simpa [follow] using ih

namespace Workspace

theorem enterFollow {workspace : Workspace} {here next : Location} {name : String}
    (entered : workspace.enter here name = .ok next) : next = follow here [name] := by
  by_cases up : name = ".."
  · rw [enter, if_pos up] at entered
    rw [follow, List.foldl_cons, if_pos up]
    exact (Except.ok.inj entered).symm
  · rw [follow, List.foldl_cons, if_neg up]
    exact (enterPlain up entered).1

theorem enterAllFollow {workspace : Workspace} {here last : Location} {names : List String}
    (entered : names.foldlM workspace.enter here = .ok last) : last = follow here names := by
  induction names generalizing here with
  | nil => exact (Except.ok.inj entered).symm
  | cons name rest ih =>
    rw [List.foldlM_cons] at entered
    cases first : workspace.enter here name with
    | error fault => simp [first, bind, Except.bind] at entered
    | ok next =>
      rw [first] at entered
      rw [ih entered, enterFollow first, ← followAppend]
      rfl

theorem directoryFollow {workspace : Workspace} {path : Path} {here : Location}
    (leads : workspace.directoryAt path = .ok here) :
    here = follow (workspace.origin path) path.names :=
  enterAllFollow leads

/- A path that has a place has names that lead there; it can go on from there, if that is a
directory. -/
theorem locateLeads {workspace : Workspace} {path : Path} {location : Location}
    (located : workspace.locate path = .ok location) :
    workspace.start path = .ok (workspace.origin path) ∧
      location = follow (workspace.origin path) path.names ∧
      (workspace.entry? location = some .directory →
        workspace.directoryAt path = .ok location) := by
  unfold locate at located
  cases started : workspace.start path with
  | error fault => simp [started, bind, Except.bind] at located
  | ok start =>
    have begins := startOrigin started
    subst begins
    simp only [started, bind, Except.bind] at located
    rw [directoryAt]
    refine ⟨rfl, ?_⟩
    cases last : path.names.getLast? with
    | none =>
      rw [last] at located
      rw [List.getLast?_eq_none_iff.1 last]
      exact ⟨(Except.ok.inj located).symm, fun _ => located⟩
    | some name =>
      obtain ⟨before, split⟩ := List.getLast?_eq_some_iff.1 last
      rw [last] at located
      simp only at located
      split at located
      · exact ⟨enterAllFollow located, fun _ => located⟩
      · rename_i lower
        have plain : name ≠ ".." := fun same => lower (by simp [same])
        rw [split, List.dropLast_concat] at located
        cases above : before.foldlM workspace.enter (workspace.origin path) with
        | error fault => simp [above] at located
        | ok here =>
          simp only [above] at located
          split at located
          · contradiction
          · rename_i short
            have same : location = here ++ [name] := (Except.ok.inj located).symm
            refine ⟨?_, ?_⟩
            · rw [split, followAppend, ← enterAllFollow above, same, followPlain here]
              simpa using Ne.symm plain
            · intro there
              rw [split, List.foldlM_append, above]
              have entered := enterDirectory plain (Nat.le_of_not_lt short) (same ▸ there)
              simp only [bind, Except.bind, List.foldlM_cons, List.foldlM_nil, entered, same]
              rfl

def OnWay (workspace : Workspace) (path : Path) (location : Location) : Prop :=
  ∃ names, names <+: path.names ∧ location = follow (workspace.origin path) names

def AlongWay (before : Workspace) (path : Path) (after : Workspace) : Prop :=
  ∀ location, after.entry? location ≠ before.entry? location → before.OnWay path location

theorem makeDirectoryWay {before after : Workspace} {path : Path}
    (done : before.makeDirectory path = .ok after) : before.AlongWay path after := by
  obtain ⟨location, located, missing, rfl⟩ := madeDirectory done
  intro other changed
  have free : before.entry? location ≠ some .directory := by simp [missing]
  rw [entryPut before (belowRoot free)] at changed
  split at changed
  · rename_i same
    exact ⟨path.names, List.prefix_rfl, same.trans (locateLeads located).2.1⟩
  · exact absurd rfl changed

theorem ensureDirectoryWay (workspace : Workspace) (path : Path) :
    workspace.AlongWay path (workspace.ensureDirectory path).1 := by
  unfold ensureDirectory
  cases made : workspace.makeDirectory path with
  | error fault => exact fun _ changed => absurd rfl changed
  | ok after => exact makeDirectoryWay made

theorem OnWay.ofParent {workspace : Workspace} {path above : Path} {location : Location}
    (parent : Path.IsParent path above) (way : workspace.OnWay above location) :
    workspace.OnWay path location := by
  obtain ⟨names, front, same⟩ := way
  rw [parent.names] at front
  refine ⟨names, front.trans (List.dropLast_prefix _), ?_⟩
  rw [same, origin, parent.absolute]
  rfl

theorem ensureFromWay (workspace : Workspace) (fuel : Nat) (path : Path) :
    workspace.AlongWay path (workspace.ensureFrom fuel path).1 := by
  induction fuel generalizing path with
  | zero => exact fun _ changed => absurd rfl changed
  | succ fuel ih =>
    unfold ensureFrom
    split
    · exact fun _ changed => absurd rfl changed
    · rename_i above found
      have parent := Path.parentOf found
      split
      · rename_i after made
        exact makeDirectoryWay made
      · have upper := ih above
        have adds := ensureFromAdds workspace fuel above
        split
        · rename_i made ensured
          rw [ensured] at upper adds
          intro location changed
          by_cases late :
              Workspace.entry? (made.ensureDirectory path).1 location = made.entry? location
          · rw [late] at changed
            exact (upper location changed).ofParent parent
          · obtain ⟨names, front, same⟩ := ensureDirectoryWay made path location late
            exact ⟨names, front, same.trans (by rw [adds.keeps.origin])⟩
        · exact fun location changed => (upper location changed).ofParent parent
      · exact fun _ changed => absurd rfl changed

theorem makeDirectoriesWay (workspace : Workspace) (path : Path) :
    workspace.AlongWay path (workspace.makeDirectories path).1 :=
  ensureFromWay workspace (path.parts.length + 1) path

theorem supplyDirectoryWay (workspace : Workspace) (path : Path) :
    workspace.AlongWay path (workspace.supplyDirectory path).1 := by
  obtain there | made := workspace.supplyDirectoryCases path
  · rw [there]
    exact fun _ changed => absurd rfl changed
  · rw [made]
    exact workspace.makeDirectoriesWay path

theorem isDirectoryAt {workspace : Workspace} {path : Path} {location : Location}
    (located : workspace.locate path = .ok location)
    (there : workspace.entry? location = some .directory) : workspace.isDirectory path = true := by
  unfold isDirectory find?
  simp only [located, there, bind, Except.bind, pure, Except.pure]

theorem Keeps.isDirectory {before after : Workspace} (keeps : Keeps before after) {path : Path}
    (there : before.isDirectory path = true) : after.isDirectory path = true := by
  obtain ⟨location, located, found⟩ := isDirectoryThere there
  exact isDirectoryAt (keeps.locate located) (keeps.directories location found)

theorem madeThere {before after : Workspace} {path : Path}
    (done : before.makeDirectory path = .ok after) : after.isDirectory path = true := by
  obtain ⟨location, located, missing, rfl⟩ := madeDirectory done
  have free : before.entry? location ≠ some .directory := by simp [missing]
  have there : Workspace.entry? (before.put location .directory) location = some .directory := by
    rw [entryPut before (belowRoot free), if_pos rfl]
  exact isDirectoryAt ((putDirectory missing).keeps.locate located) there

theorem settledThere {there : Bool} {fault : Fault}
    (settled : (if there then none else some fault) = none) : there = true := by
  cases there with
  | true => rfl
  | false => contradiction

theorem ensuredThere {before after : Workspace} {path : Path}
    (done : before.ensureDirectory path = (after, none)) : after.isDirectory path = true := by
  unfold ensureDirectory at done
  split at done
  · rename_i made ready
    cases done
    exact madeThere ready
  · obtain ⟨rfl, settled⟩ := Prod.mk.inj done
    exact settledThere settled

/- A path without a parent has no names, so it leads to where it starts. -/
theorem ensureFromThere {before after : Workspace} {fuel : Nat} {path : Path}
    (done : before.ensureFrom (fuel + 1) path = (after, none)) :
    path.parent? = none ∨ after.isDirectory path = true := by
  unfold ensureFrom at done
  split at done
  · rename_i bare
    exact .inl bare
  · right
    split at done
    · rename_i made ready
      cases done
      exact madeThere ready
    · split at done
      · exact ensuredThere done
      · rename_i unfinished
        exact absurd done (unfinished after)
    · obtain ⟨rfl, settled⟩ := Prod.mk.inj done
      exact settledThere settled

theorem ensureFromLeads {before after : Workspace} {fuel : Nat} {path : Path}
    (done : before.ensureFrom (fuel + 1) path = (after, none)) :
    ∃ here, after.directoryAt path = .ok here := by
  rcases ensureFromThere done with bare | there
  · rw [directoryAt, Path.parentNone bare]
    exact ⟨_, rfl⟩
  · obtain ⟨location, located, found⟩ := isDirectoryThere there
    exact ⟨location, (locateLeads located).2.2 found⟩

theorem makeDirectoriesLeads {before after : Workspace} {path : Path}
    (done : before.makeDirectories path = (after, none)) :
    ∃ here, after.directoryAt path = .ok here :=
  ensureFromLeads done

theorem makeDirectoriesStanding {workspace : Workspace} {path : Path}
    (there : workspace.isDirectory path = true) :
    workspace.makeDirectories path = (workspace, none) := by
  obtain ⟨location, located, found⟩ := isDirectoryThere there
  have refused : workspace.makeDirectory path = .error .alreadyExists := by
    unfold makeDirectory
    simp only [located, found, bind, Except.bind]
    rfl
  unfold makeDirectories ensureFrom
  cases path.parent? with
  | none => rfl
  | some above => simp only [refused, there, if_true]

theorem makeDirectoriesAgain {before made after : Workspace} {path : Path}
    (done : before.makeDirectories path = (made, none)) (keeps : Keeps made after) :
    after.makeDirectories path = (after, none) := by
  obtain bare | there := ensureFromThere done
  · unfold makeDirectories ensureFrom
    rw [bare]
  · exact makeDirectoriesStanding (keeps.isDirectory there)

theorem supplyDirectoryUnfiled {workspace : Workspace} {path : Path}
    (unfiled : ∀ location content, workspace.locate path = .ok location →
      workspace.entry? location ≠ some (.file content)) :
    workspace.supplyDirectory path = workspace.makeDirectories path := by
  unfold supplyDirectory
  split
  · rename_i found
    unfold isThere find? at found
    cases located : workspace.locate path with
    | error fault => simp [located, bind, Except.bind] at found
    | ok location =>
      cases there : workspace.entry? location with
      | none => simp [located, there, bind, Except.bind, pure, Except.pure] at found
      | some entry =>
        cases entry with
        | directory => exact (makeDirectoriesStanding (isDirectoryAt located there)).symm
        | file content => exact absurd there (unfiled location content located)
  · rfl

structure Passable (workspace : Workspace) (path : Path) : Prop where
  start : workspace.start path = .ok (workspace.origin path)
  short : ∀ name ∈ path.names, name.utf8ByteSize ≤ maxName
  clear : ∀ location content, workspace.OnWay path location →
    workspace.entry? location ≠ some (.file content)
  undotted : path.names ≠ [] → path.endsInDot = false

theorem enterClear {workspace : Workspace} {here : Location} {names : List String}
    (short : ∀ name ∈ names, name.utf8ByteSize ≤ maxName)
    (clear : ∀ front content, front <+: names →
      workspace.entry? (follow here front) ≠ some (.file content)) :
    names.foldlM workspace.enter here = .ok (follow here names) ∨
      names.foldlM workspace.enter here = .error .notFound := by
  induction names generalizing here with
  | nil => exact .inl rfl
  | cons name rest ih =>
    obtain ⟨first, later⟩ := List.forall_mem_cons.1 short
    have next : ∀ found, workspace.enter here name = .ok found →
        (name :: rest).foldlM workspace.enter here = .ok (follow here (name :: rest)) ∨
          (name :: rest).foldlM workspace.enter here = .error .notFound := by
      intro found entered
      have same := enterFollow entered
      have below : ∀ front content, front <+: rest →
          workspace.entry? (follow found front) ≠ some (.file content) := by
        intro front content inside
        have upper := clear (name :: front) content ((List.prefix_cons_inj name).2 inside)
        rwa [← List.singleton_append, followAppend, ← same] at upper
      have going := ih later below
      rw [List.foldlM_cons, entered, ← List.singleton_append, followAppend, ← same]
      exact going
    by_cases up : name = ".."
    · exact next here.dropLast (by rw [enter, if_pos up])
    · have own := clear [name]
      rw [followPlain here (by simpa using Ne.symm up)] at own
      cases there : workspace.entry? (here ++ [name]) with
      | none =>
        right
        rw [List.foldlM_cons, enter, if_neg up, if_neg (Nat.not_lt.2 first), there]
        rfl
      | some entry =>
        cases entry with
        | directory => exact next _ (enterDirectory up first there)
        | file content => exact absurd there (own content (List.prefix_append [name] rest))

theorem Passable.locate {workspace : Workspace} {path : Path}
    (passable : workspace.Passable path) :
    (∃ location, workspace.locate path = .ok location) ∨
      workspace.locate path = .error .notFound := by
  unfold Workspace.locate
  rw [passable.start]
  simp only [bind, Except.bind]
  have clear : ∀ front content, front <+: path.names →
      workspace.entry? (follow (workspace.origin path) front) ≠ some (.file content) :=
    fun front content inside => passable.clear _ content ⟨front, inside, rfl⟩
  cases last : path.names.getLast? with
  | none => exact .inl ⟨_, rfl⟩
  | some name =>
    obtain ⟨before, split⟩ := List.getLast?_eq_some_iff.1 last
    have short := passable.short
    simp only
    split
    · rcases enterClear short clear with found | lost
      · exact .inl ⟨_, found⟩
      · exact .inr lost
    · rw [split, List.forall_mem_append] at short
      rw [split] at clear ⊢
      rw [List.dropLast_concat]
      have upper := enterClear short.1 fun front content inside =>
        clear front content (inside.trans (List.prefix_append before [name]))
      rcases upper with found | lost
      · rw [found]
        simp only [if_neg (Nat.not_lt.2 (short.2 name (List.mem_singleton_self name)))]
        exact .inl ⟨_, rfl⟩
      · rw [lost]
        exact .inr rfl

theorem locateBelowParent {workspace : Workspace} {path above : Path} {here : Location}
    (started : workspace.start path = .ok (workspace.origin path))
    (parent : Path.IsParent path above) (undotted : path.endsInDot = false)
    (short : ∀ name ∈ path.names, name.utf8ByteSize ≤ maxName)
    (leads : workspace.directoryAt above = .ok here) :
    ∃ location, workspace.locate path = .ok location := by
  have upper : path.names.dropLast.foldlM workspace.enter (workspace.origin path) = .ok here := by
    rw [directoryAt, parent.names, origin, parent.absolute] at leads
    exact leads
  unfold locate
  rw [started]
  simp only [bind, Except.bind, undotted, Bool.false_or, decide_eq_true_eq]
  cases last : path.names.getLast? with
  | none => exact ⟨_, rfl⟩
  | some name =>
    obtain ⟨before, split⟩ := List.getLast?_eq_some_iff.1 last
    rw [split, List.dropLast_concat] at upper
    rw [split, List.forall_mem_append] at short
    rw [split, List.dropLast_concat, List.foldlM_append, upper]
    simp only
    split
    · rename_i up
      refine ⟨here.dropLast, ?_⟩
      simp [bind, Except.bind, enter, up]
      rfl
    · rw [if_neg (Nat.not_lt.2 (short.2 name (List.mem_singleton_self name)))]
      exact ⟨_, rfl⟩

theorem startParent {workspace : Workspace} {path above : Path}
    (started : workspace.start path = .ok (workspace.origin path))
    (parent : Path.IsParent path above) :
    above = .empty ∨ workspace.start above = .ok (workspace.origin above) := by
  by_cases bare : above = .empty
  · exact .inl bare
  · right
    obtain ⟨after, longer⟩ := parent.text
    have whole : path.text = above.text ++ String.ofList after := by
      rw [← String.toList_inj, ← longer, String.toList_append, String.toList_ofList]
    unfold Workspace.start at started ⊢
    split at started
    · contradiction
    rename_i clean
    split at started
    · contradiction
    rename_i short
    have kept : ¬ above.text.toList.contains (Char.ofNat 0) = true := by
      intro member
      apply clean
      rw [whole, String.toList_append]
      simpa using Or.inl (by simpa using member)
    have shorter : ¬ maxPath < above.text.utf8ByteSize := by
      rw [whole, String.utf8ByteSize_append] at short
      omega
    rw [if_neg kept, if_neg shorter, if_neg bare]
    rfl

theorem Passable.ofParent {workspace : Workspace} {path above : Path}
    (passable : workspace.Passable path) (parent : Path.IsParent path above) :
    above = .empty ∨ workspace.Passable above := by
  refine (startParent passable.start parent).imp_right ?_
  intro started
  refine ⟨started, ?_, ?_, parent.undotted⟩
  · intro name member
    rw [parent.names] at member
    exact passable.short name (List.dropLast_subset _ member)
  · intro location content way
    exact passable.clear location content (way.ofParent parent)

theorem makeDirectoryPlaced {workspace : Workspace} {path : Path} {location : Location}
    (located : workspace.locate path = .ok location)
    (clear : ∀ content, workspace.entry? location ≠ some (.file content)) :
    (∃ made, workspace.makeDirectory path = .ok made) ∨
      workspace.makeDirectory path = .error .alreadyExists ∧
        workspace.isDirectory path = true := by
  unfold makeDirectory isDirectory find?
  rw [located]
  cases there : workspace.entry? location with
  | none => exact .inl ⟨_, by simp only [bind, Except.bind, there]; rfl⟩
  | some entry =>
    cases entry with
    | directory => exact .inr (by simp [bind, Except.bind, pure, Except.pure, there]; rfl)
    | file content => exact absurd there (clear content)

theorem ensureDirectoryPlaced {workspace : Workspace} {path : Path} {location : Location}
    (located : workspace.locate path = .ok location)
    (clear : ∀ content, workspace.entry? location ≠ some (.file content)) :
    ∃ made, workspace.ensureDirectory path = (made, none) := by
  unfold ensureDirectory
  rcases makeDirectoryPlaced located clear with ⟨made, ready⟩ | ⟨old, there⟩
  · rw [ready]
    exact ⟨made, rfl⟩
  · rw [old, there]
    exact ⟨workspace, rfl⟩

theorem emptyDirectory (workspace : Workspace) (fuel : Nat) :
    workspace.ensureFrom fuel .empty = (workspace, none) := by
  cases fuel <;> rfl

theorem Passable.unfiled {workspace : Workspace} {path : Path} {location : Location}
    (passable : workspace.Passable path) (located : workspace.locate path = .ok location)
    (content : ByteArray) : workspace.entry? location ≠ some (.file content) :=
  passable.clear location content ⟨path.names, List.prefix_rfl, (locateLeads located).2.1⟩

theorem Passable.filled {workspace : Workspace} {path : Path} (passable : workspace.Passable path)
    (lost : workspace.locate path = .error .notFound) : path.names ≠ [] := by
  intro bare
  have placed : workspace.locate path = .ok (workspace.origin path) := by
    rw [Workspace.locate, passable.start, bare]
    rfl
  exact nomatch placed.symm.trans lost

theorem AddsDirectories.start {before after : Workspace} (adds : AddsDirectories before after)
    {path : Path} (started : before.start path = .ok (before.origin path)) :
    after.start path = .ok (after.origin path) := by
  rw [adds.keeps.origin, ← started, Workspace.start, Workspace.start, adds.current]

theorem Passable.ensured {workspace made : Workspace} {path above : Path} {here : Location}
    (passable : workspace.Passable path) (filled : path.names ≠ [])
    (parent : Path.IsParent path above) (adds : AddsDirectories workspace made)
    (leads : made.directoryAt above = .ok here) :
    ∃ last, made.ensureDirectory path = (last, none) := by
  obtain ⟨location, located⟩ := locateBelowParent (adds.start passable.start) parent
    (passable.undotted filled) passable.short leads
  have own := (locateLeads located).2.1
  rw [adds.keeps.origin] at own
  refine ensureDirectoryPlaced located ?_
  intro content there
  have old := passable.clear location content ⟨path.names, List.prefix_rfl, own⟩
  exact old ((adds.files location content).1 there)

/- The induction goes up the path: where its place cannot be found, the directory above it is made
first, which is one name shorter. -/
theorem ensureFromDone {workspace : Workspace} {path : Path} {fuel : Nat}
    (passable : workspace.Passable path) (enough : path.names.length < fuel) :
    ∃ made, workspace.ensureFrom fuel path = (made, none) := by
  induction fuel generalizing path with
  | zero => contradiction
  | succ fuel ih =>
    unfold ensureFrom
    cases found : path.parent? with
    | none => exact ⟨workspace, rfl⟩
    | some above =>
      have parent := Path.parentOf found
      rcases passable.locate with ⟨location, located⟩ | lost
      · rcases makeDirectoryPlaced located (passable.unfiled located) with
          ⟨made, ready⟩ | ⟨old, there⟩
        · rw [ready]
          exact ⟨made, rfl⟩
        · rw [old]
          simp [there]
      · have failed : workspace.makeDirectory path = .error .notFound := by
          rw [makeDirectory, lost]
          rfl
        have filled := passable.filled lost
        have upper : ∃ made here, workspace.ensureFrom fuel above = (made, none) ∧
            made.directoryAt above = .ok here := by
          rcases passable.ofParent parent with rfl | passable
          · exact ⟨workspace, workspace.current, workspace.emptyDirectory fuel, rfl⟩
          · have shorter : above.names.length < fuel := by
              have length := List.length_pos_iff.2 filled
              rw [parent.names, List.length_dropLast]
              omega
            obtain ⟨made, ready⟩ := ih passable shorter
            obtain ⟨less, rfl⟩ := Nat.exists_eq_add_of_lt shorter
            obtain ⟨here, leads⟩ := ensureFromLeads ready
            exact ⟨made, here, ready, leads⟩
        obtain ⟨made, here, ready, leads⟩ := upper
        have adds := ensureFromAdds workspace fuel above
        rw [ready] at adds
        obtain ⟨last, ended⟩ := passable.ensured filled parent adds leads
        rw [failed]
        simp only [ready]
        exact ⟨last, ended⟩

theorem makeDirectoriesDone {workspace : Workspace} {path : Path}
    (passable : workspace.Passable path) :
    ∃ made, workspace.makeDirectories path = (made, none) :=
  ensureFromDone passable (Nat.lt_succ_of_le (List.length_filter_le _ _))

end Workspace

end RequestSuite.Files
