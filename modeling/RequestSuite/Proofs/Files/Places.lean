import RequestSuite.Proofs.Files.Making

/-! Directories and files made below one directory, each in a directory that was there or was made
before it. When all of them can be made and no two have one place, the tree differs from what it was
in these places only, and holds at each what was made there. -/
namespace RequestSuite.Files
open Files.Path (IsPlain isName)

namespace Workspace

theorem locateFound {workspace : Workspace} {path : Path} {name : String} {here : Location}
    (plain : IsPlain name) (leads : workspace.directoryAt path = .ok here) :
    workspace.locate (path.child name) ≠ .error .notFound := by
  rw [locateChild workspace path plain, leads]
  have begins : workspace.start (path.child name) ≠ .error .notFound :=
    startFound (Path.childText path plain.1)
  cases started : workspace.start (path.child name) with
  | error fault =>
    rw [started] at begins
    exact begins
  | ok start =>
    simp only [Except.bind]
    split <;> simp

theorem makeDirectoryFault {workspace : Workspace} {path : Path} {fault : Fault}
    (failed : workspace.makeDirectory path = .error fault) :
    workspace.locate path = .error fault ∨ fault = .alreadyExists := by
  unfold makeDirectory at failed
  cases located : workspace.locate path with
  | error other =>
    rw [located] at failed
    exact .inl (congrArg Except.error (Except.error.inj failed))
  | ok location =>
    simp only [located, bind, Except.bind] at failed
    cases there : workspace.entry? location with
    | none => simp [there, pure, Except.pure] at failed
    | some entry =>
      rw [there] at failed
      exact .inr (Except.error.inj failed).symm

theorem isDirectoryThere {workspace : Workspace} {path : Path}
    (there : workspace.isDirectory path = true) :
    ∃ location, workspace.locate path = .ok location ∧
      workspace.entry? location = some .directory := by
  unfold isDirectory find? at there
  cases located : workspace.locate path with
  | error fault => simp [located, bind, Except.bind] at there
  | ok location =>
    simp only [located, bind, Except.bind, pure, Except.pure] at there
    split at there
    · rename_i found
      exact ⟨location, rfl, Except.ok.inj found⟩
    · cases there

theorem makeDirectoriesChild {before after : Workspace} {path : Path} {name : String}
    {here : Location} (plain : IsPlain name) (leads : before.directoryAt path = .ok here)
    (done : before.makeDirectories (path.child name) = (after, none)) :
    name.utf8ByteSize ≤ maxName ∧ after.current = before.current ∧
      ∀ location, after.entry? location =
        if location = here ++ [name] then some .directory else before.entry? location := by
  obtain ⟨above, parent⟩ := Path.parentThere path plain.1
  unfold makeDirectories ensureFrom at done
  simp only [parent] at done
  split at done
  · rename_i made ready
    cases done
    obtain ⟨location, located, missing, rfl⟩ := madeDirectory ready
    obtain ⟨found, same, rfl, short⟩ := locateBelow plain located
    cases leads.symm.trans same
    exact ⟨short, rfl, entryPut before (by simp) .directory⟩
  · rename_i failed
    rcases makeDirectoryFault failed with lost | other
    · exact absurd lost (locateFound plain leads)
    · cases other
  · obtain ⟨rfl, settled⟩ := Prod.mk.inj done
    have old : before.isDirectory (path.child name) = true := by
      by_contra other
      simp [other] at settled
    obtain ⟨location, located, there⟩ := isDirectoryThere old
    obtain ⟨found, same, rfl, short⟩ := locateBelow plain located
    cases leads.symm.trans same
    refine ⟨short, rfl, ?_⟩
    intro other
    split
    · rename_i equal
      exact equal ▸ there
    · rfl

theorem makeDirectoriesThere {workspace : Workspace} {path : Path} {here : Location}
    (leads : workspace.directoryAt path = .ok here)
    (there : workspace.entry? here = some .directory) :
    (workspace.makeDirectories path).1 = workspace := by
  unfold makeDirectories ensureFrom
  split
  · rfl
  · rename_i above parent
    have filled : path ≠ .empty := by
      rintro rfl
      contradiction
    have begins : workspace.start path ≠ .error .notFound := startFound filled
    split
    · rename_i made ready
      obtain ⟨location, located, missing, -⟩ := madeDirectory ready
      rcases locateDirectory leads with ⟨fault, -, lost⟩ | found
      · cases located.symm.trans lost
      · cases located.symm.trans found
        cases there.symm.trans missing
    · rename_i failed
      rcases makeDirectoryFault failed with lost | other
      · rcases locateDirectory leads with ⟨fault, refused, again⟩ | found
        · cases lost.symm.trans again
          exact absurd refused begins
        · cases found.symm.trans lost
      · cases other
    · rfl

theorem directoryChild {workspace : Workspace} {path : Path} {name : String} {here : Location}
    (plain : IsPlain name) (leads : workspace.directoryAt path = .ok here)
    (short : name.utf8ByteSize ≤ maxName)
    (there : workspace.entry? (here ++ [name]) = some .directory) :
    workspace.directoryAt (path.child name) = .ok (here ++ [name]) := by
  have below := directoryDescend workspace path (Path.plainSingle plain)
  have entered := enterDirectory plain.2 short there
  rw [leads] at below
  simp only [Except.bind, List.foldlM_cons, List.foldlM_nil, bind_pure, entered] at below
  exact below

end Workspace

/- Each of some things stands in a directory that is there or that an earlier one opens. -/
inductive Opened {α : Type} (parent : α → List String) (opens : α → List (List String)) :
    List (List String) → List α → Prop where
  | nil {dirs} : Opened parent opens dirs []
  | cons {dirs first rest} (there : parent first ∈ dirs)
      (later : Opened parent opens (opens first ++ dirs) rest) :
      Opened parent opens dirs (first :: rest)

section
variable {α : Type} {parent : α → List String} {opens : α → List (List String)}

theorem Opened.more {dirs others : List (List String)} {list : List α}
    (opened : Opened parent opens dirs list) (subset : dirs ⊆ others) :
    Opened parent opens others list := by
  induction opened generalizing others with
  | nil => exact .nil
  | cons there later ih =>
    exact .cons (subset there) (ih (List.append_subset.2
      ⟨List.subset_append_left _ _, List.subset_append_of_subset_right _ subset⟩))

theorem Opened.append {dirs : List (List String)} {before after : List α}
    (early : Opened parent opens dirs before) (late : Opened parent opens dirs after) :
    Opened parent opens dirs (before ++ after) := by
  induction early with
  | nil => exact late
  | cons there later ih =>
    exact .cons there (ih (late.more (List.subset_append_right _ _)))

theorem Opened.ofFiles {dirs : List (List String)} {list : List α}
    (files : ∀ found ∈ list, parent found ∈ dirs ∧ opens found = []) :
    Opened parent opens dirs list := by
  induction list with
  | nil => exact .nil
  | cons first rest ih =>
    obtain ⟨⟨there, none⟩, later⟩ := List.forall_mem_cons.1 files
    refine .cons there ?_
    rw [none, List.nil_append]
    exact ih later

end

structure Place where
  names : List String
  text : Option String

namespace Place

def entry (place : Place) : Entry :=
  match place.text with
  | none => .directory
  | some text => .file text.toUTF8

def change (base : Path) (place : Place) : Change :=
  match place.text with
  | none => .directory (base.descend place.names)
  | some text => .file (base.descend place.names) text

def isDirectory (place : Place) : Bool := place.text.isNone

def parent (place : Place) : List String := place.names.dropLast

def opens (place : Place) : List (List String) :=
  match place.text with
  | none => [place.names]
  | some _ => []

def IsProper (place : Place) : Prop := place.names ≠ [] ∧ ∀ name ∈ place.names, IsPlain name

end Place

namespace Workspace

theorem placeMade {before after : Workspace} {base : Path} {here : Location} {place : Place}
    (proper : place.IsProper)
    (leads : before.directoryAt (base.descend place.parent) = .ok (here ++ place.parent))
    (done : before.make (place.change base) = (after, none)) :
    (∀ location, after.entry? location =
      if here ++ place.names = location then some place.entry else before.entry? location) ∧
      ∀ names ∈ place.opens, after.directoryAt (base.descend names) = .ok (here ++ names) := by
  obtain ⟨names, text⟩ := place
  obtain ⟨some, plain⟩ := proper
  obtain ⟨above, name, rfl⟩ := (List.eq_nil_or_concat' names).resolve_left some
  have last : IsPlain name := plain name (by simp)
  have keeps := makeKeeps done
  simp only [Place.parent, List.dropLast_concat] at leads
  cases text with
  | none =>
    have ready : before.makeDirectories ((base.descend above).child name) = (after, none) := by
      rw [← Path.descendLast]
      exact done
    obtain ⟨short, -, entries⟩ := makeDirectoriesChild last leads ready
    rw [List.append_assoc] at entries
    refine ⟨fun location => by rw [entries]; simp only [eq_comm]; rfl, ?_⟩
    intro opened member
    cases List.mem_singleton.1 member
    rw [Path.descendLast, ← List.append_assoc]
    refine directoryChild last (keeps.directoryAt leads) short ?_
    rw [entries, List.append_assoc, if_pos rfl]
  | some text =>
    obtain ⟨location, wrote⟩ := wroteFile done
    have located := wrote.located
    rw [Path.descendLast] at located
    obtain ⟨found, same, rfl, -⟩ := locateBelow last located
    cases leads.symm.trans same
    refine ⟨fun location => ?_, by simp [Place.opens]⟩
    rw [wrote.result, entryPut before (belowRoot wrote.free), List.append_assoc]
    simp only [eq_comm]
    rfl

/- The induction goes over the places; the directories that lead somewhere grow with them. -/
theorem placesMade {base : Path} {here : Location} {dirs : List (List String)}
    {places : List Place} (opened : Opened Place.parent Place.opens dirs places)
    {before after : Workspace} (proper : ∀ place ∈ places, place.IsProper)
    (leads : ∀ names ∈ dirs, before.directoryAt (base.descend names) = .ok (here ++ names))
    (distinct : (places.map Place.names).Nodup)
    (done : before.makeAll (places.map (Place.change base)) = (after, none))
    (location : Location) :
    after.entry? location =
      ((places.find? fun place => here ++ place.names = location).map Place.entry).or
        (before.entry? location) := by
  induction opened generalizing before with
  | nil =>
    cases done
    rfl
  | @cons dirs place rest there later ih =>
    obtain ⟨made, first, last⟩ := makeAllStep done
    obtain ⟨fresh, others⟩ := List.nodup_cons.1 distinct
    obtain ⟨entries, below⟩ := placeMade (proper place List.mem_cons_self) (leads _ there) first
    have keeps := makeKeeps first
    have opens : ∀ names ∈ place.opens ++ dirs,
        made.directoryAt (base.descend names) = .ok (here ++ names) := by
      intro names member
      rcases List.mem_append.1 member with new | old
      · exact below names new
      · exact keeps.directoryAt (leads names old)
    rw [ih (fun other member => proper other (List.mem_cons_of_mem _ member)) opens others last,
      entries, List.find?_cons]
    by_cases own : here ++ place.names = location
    · have absent : (rest.find? fun other => here ++ other.names = location) = none := by
        rw [List.find?_eq_none]
        intro other member
        have different : other.names ≠ place.names := fun same =>
          fresh (List.mem_map.2 ⟨other, member, same⟩)
        simpa [← own] using different
      simp [absent, own]
    · simp [own]

theorem baseLeads {workspace : Workspace} {base : Path} {here : Location}
    (leads : workspace.directoryAt base = .ok here) :
    ∀ names ∈ [[]], workspace.directoryAt (base.descend names) = .ok (here ++ names) := by
  intro names member
  rw [List.mem_singleton.1 member, List.append_nil]
  exact leads

structure Gains (before after : Workspace) (here : Location) (places : List Place) : Prop where
  distinct : (places.map Place.names).Nodup
  below : ∀ place ∈ places, place.IsProper
  there : ∀ place ∈ places, after.entry? (here ++ place.names) = some place.entry
  others : ∀ location, (∀ place ∈ places, location ≠ here ++ place.names) →
    after.entry? location = before.entry? location

theorem gainsPlaces {base : Path} {here : Location} {places : List Place}
    (opened : Opened Place.parent Place.opens [[]] places) {before after : Workspace}
    (proper : ∀ place ∈ places, place.IsProper) (leads : before.directoryAt base = .ok here)
    (distinct : (places.map Place.names).Nodup)
    (done : before.makeAll (places.map (Place.change base)) = (after, none)) :
    before.Gains after here places := by
  have entries := placesMade opened proper (baseLeads leads) distinct done
  refine ⟨distinct, proper, ?_, ?_⟩
  · intro place member
    have found : (places.find? fun other => here ++ other.names = here ++ place.names) =
        some place := by
      obtain ⟨before, rest, rfl⟩ := List.append_of_mem member
      rw [List.map_append, List.map_cons] at distinct
      have apart := (List.nodup_append.1 distinct).2.2
      refine List.find?_eq_some_iff_append.2 ⟨by simp, before, rest, rfl, ?_⟩
      intro other early
      simpa using apart _ (List.mem_map_of_mem early) _ List.mem_cons_self
    rw [entries, found]
    rfl
  · intro location apart
    have absent : (places.find? fun place => here ++ place.names = location) = none := by
      rw [List.find?_eq_none]
      intro place member
      simpa using (apart place member).symm
    rw [entries, absent]
    rfl

structure Vacant (workspace : Workspace) (path : Path) (here : Location) : Prop where
  leads : workspace.directoryAt path = .ok here
  there : workspace.entry? here = some .directory
  nothing : ∀ names, names ≠ [] → workspace.entry? (here ++ names) = none

theorem Vacant.readChild {workspace : Workspace} {path : Path} {here : Location} {name : String}
    (vacant : workspace.Vacant path here) (plain : IsPlain name) :
    ∃ fault, workspace.readText (path.child name) = .error fault := by
  unfold readText readBytes find?
  cases located : workspace.locate (path.child name) with
  | error fault => exact ⟨fault, rfl⟩
  | ok location =>
    obtain ⟨found, leads, rfl, -⟩ := locateBelow plain located
    cases vacant.leads.symm.trans leads
    have missing := vacant.nothing [name] (List.cons_ne_nil _ _)
    exact ⟨.notFound, by simp [missing, bind, Except.bind, pure, Except.pure, throw, throwThe,
      MonadExceptOf.throw]⟩

end Workspace

end RequestSuite.Files
