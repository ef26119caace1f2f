import Mathlib.Data.List.DropRight
import RequestSuite.Files.Path

/-! Paths that go down by names. Going down adds the names to those of the path and keeps where the
path begins; the parent of such a path has the names and the beginning of the path it came from. -/
namespace RequestSuite.Files.Path

def IsPlain (name : String) : Prop := isName name = true ∧ name ≠ ".."

theorem plainSingle {name : String} (plain : IsPlain name) : ∀ other ∈ [name], IsPlain other := by
  intro other member
  exact List.mem_singleton.1 member ▸ plain

theorem nonemptyName {name : String} (named : isName name = true) : name ≠ "" := by
  rintro rfl
  contradiction

theorem stemChild (path : Path) {name : String} (named : isName name = true) :
    (path.child name).stem = (path.child name).parts := by
  have last : (path.child name).parts.getLast? = some name := by simp [child]
  rw [stem, if_neg]
  rw [last]
  intro same
  exact nonemptyName named (Option.some.inj same)

theorem absoluteStem (path : Path) : path.isAbsolute = true ↔ path.stem.head? = some "" := by
  obtain ⟨parts⟩ := path
  simp only [isAbsolute, stem]
  split
  · rename_i last
    obtain ⟨before, rfl⟩ := List.getLast?_eq_some_iff.1 last
    rw [List.dropLast_concat]
    cases before <;> simp
  · rename_i last
    cases parts with
    | nil => simp
    | cons first rest =>
      cases rest with
      | nil => simpa using last
      | cons second rest => simp

theorem absoluteChild (path : Path) {name : String} (named : isName name = true) :
    (path.child name).isAbsolute = path.isAbsolute := by
  rw [Bool.eq_iff_iff, absoluteStem, absoluteStem, stemChild path named]
  unfold child
  cases path.stem with
  | nil => simpa using nonemptyName named
  | cons first rest => simp

theorem descendAppend (path : Path) (before after : List String) :
    path.descend (before ++ after) = (path.descend before).descend after :=
  List.foldl_append

theorem descendLast (path : Path) (names : List String) (name : String) :
    path.descend (names ++ [name]) = (path.descend names).child name :=
  descendAppend path names [name]

theorem namesDescend (path : Path) {names : List String}
    (named : ∀ name ∈ names, isName name = true) :
    (path.descend names).names = path.names ++ names := by
  induction names generalizing path with
  | nil => exact (List.append_nil _).symm
  | cons name rest ih =>
    obtain ⟨first, later⟩ := List.forall_mem_cons.1 named
    have below := ih (path.child name) later
    rw [namesChild path first, List.append_assoc] at below
    exact below

theorem absoluteDescend (path : Path) {names : List String}
    (named : ∀ name ∈ names, isName name = true) :
    (path.descend names).isAbsolute = path.isAbsolute := by
  induction names generalizing path with
  | nil => rfl
  | cons name rest ih =>
    obtain ⟨first, later⟩ := List.forall_mem_cons.1 named
    exact (ih (path.child name) later).trans (absoluteChild path first)

theorem childText (path : Path) {name : String} (named : isName name = true) :
    path.child name ≠ .empty := by
  intro same
  have last := congrArg (fun found => found.parts.getLast?) same
  simp only [child, empty, List.getLast?_append, List.getLast?_singleton, Option.some_or,
    Option.some.injEq] at last
  exact nonemptyName named last

theorem childEnds (path : Path) {name : String} (named : isName name = true) :
    (path.child name).endsInSlash = false ∧ (path.child name).endsInDot = false := by
  have filled := nonemptyName named
  have undotted : name ≠ "." := by
    rintro rfl
    contradiction
  constructor
  · simp [endsInSlash, child, filled]
  · simp [endsInDot, child, filled, undotted]

theorem lastNameStep (parts : List String) (part : String) :
    toLastName (parts ++ [part]) = if isName part then parts ++ [part] else toLastName parts := by
  cases kind : isName part <;> simp [toLastName, kind]

theorem namesLastName (parts : List String) :
    (toLastName parts).filter isName = parts.filter isName := by
  induction parts using List.reverseRecOn with
  | nil => rfl
  | append_singleton before part ih =>
    rw [lastNameStep]
    cases kind : isName part with
    | true => rfl
    | false => simpa [kind] using ih

theorem lastNameKeeps {first : String} (named : isName first = true) (rest : List String) :
    ∃ kept, toLastName (first :: rest) = first :: kept := by
  induction rest using List.reverseRecOn with
  | nil => exact ⟨[], by simp [toLastName, named]⟩
  | append_singleton before part ih =>
    rw [← List.cons_append, lastNameStep]
    cases isName part with
    | true => exact ⟨before ++ [part], rfl⟩
    | false => exact ih

theorem beforeLast (parts : List String) {name : String} (named : isName name = true) :
    beforeLastName? (parts ++ [name]) = some (toLastName parts) := by
  unfold beforeLastName?
  rw [lastNameStep, if_pos named]
  split
  · rename_i none
    simp at none
  · rw [List.dropLast_concat]

theorem parentThere (path : Path) {name : String} (named : isName name = true) :
    ∃ above, (path.child name).parent? = some above := by
  unfold child parent?
  split
  · exact ⟨_, rfl⟩
  · rename_i rest same
    cases stem : path.stem with
    | nil =>
      rw [stem] at same
      exact absurd (List.cons.inj same).1 (nonemptyName named)
    | cons first later =>
      rw [stem] at same
      rw [← (List.cons.inj same).2]
      exact ⟨_, congrArg _ (beforeLast later named)⟩
  · exact ⟨_, congrArg _ (beforeLast path.stem named)⟩

/- A path that begins with a name: what is left of it begins with the name too, if anything is. -/
theorem parentNamed {parts : List String} (begins : parts.head?.any isName = true) :
    parent ⟨parts⟩ = ((beforeLastName? parts).map fun above =>
      if above.isEmpty then empty else ⟨above⟩).getD empty := by
  unfold parent parent?
  split
  · rename_i same
    cases same
    contradiction
  · rename_i same
    cases same
    contradiction
  · rfl

theorem fromRoot (parts : List String) :
    names ⟨"" :: if parts.isEmpty then [""] else parts⟩ = parts.filter isName ∧
      isAbsolute ⟨"" :: if parts.isEmpty then [""] else parts⟩ = true := by
  cases parts <;> simp [names, isName, isAbsolute]

theorem parentChild (path : Path) {name : String} (named : isName name = true) :
    (path.child name).parent.names = path.names ∧
      (path.child name).parent.isAbsolute = path.isAbsolute := by
  rw [← namesStem path, Bool.eq_iff_iff, absoluteStem path, child]
  cases path.stem with
  | nil =>
    rw [List.nil_append, parentNamed (by simpa using named), ← List.nil_append [name],
      beforeLast [] named]
    exact ⟨rfl, by decide⟩
  | cons first rest =>
    have before := beforeLast rest named
    rw [List.cons_append]
    by_cases dot : first = "."
    · subst dot
      have shape : parent ⟨"." :: (rest ++ [name])⟩ = ⟨"." :: toLastName rest⟩ := by
        simp only [parent, parent?, before, Option.elim_some, Option.getD_some]
      rw [shape]
      simp [names, namesLastName, isName, isAbsolute]
    · by_cases root : first = ""
      · subst root
        have shape : parent ⟨"" :: (rest ++ [name])⟩ =
            ⟨"" :: if (toLastName rest).isEmpty then [""] else toLastName rest⟩ := by
          simp only [parent, parent?, before, Option.map_some, Option.getD_some]
        obtain ⟨kept, absolute⟩ := fromRoot (toLastName rest)
        rw [shape, kept, namesLastName, absolute]
        exact ⟨rfl, by simp⟩
      · have begins : isName first = true := by simp [isName, dot, root]
        have above := beforeLast (first :: rest) named
        obtain ⟨later, left⟩ := lastNameKeeps begins rest
        have kept := namesLastName (first :: rest)
        rw [left] at above kept
        rw [parentNamed (by simpa using begins), ← List.cons_append, above]
        refine ⟨kept, ?_⟩
        simp [isAbsolute, root]

end RequestSuite.Files.Path
