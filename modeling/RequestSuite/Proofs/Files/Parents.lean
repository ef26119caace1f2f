import RequestSuite.Proofs.Files.Descent

/-! The path of the directory above a path. It begins where the path begins, has all of its names but
the last, and its text is the beginning of the path's. -/
namespace RequestSuite.Files.Path
open Text

theorem joinPrefix (separator : List Char) {before parts : List (List Char)}
    (front : before <+: parts) : joinWith separator before <+: joinWith separator parts := by
  obtain ⟨after, rfl⟩ := front
  induction before with
  | nil => exact List.nil_prefix
  | cons first rest ih =>
    cases rest with
    | nil =>
      cases after with
      | nil => exact List.prefix_rfl
      | cons next others =>
        have joined : joinWith separator (first :: next :: others) =
            first ++ separator ++ joinWith separator (next :: others) := rfl
        rw [List.singleton_append, joined, List.append_assoc]
        exact List.prefix_append first _
    | cons second rest =>
      have joined : ∀ others, joinWith separator (first :: second :: others) =
          first ++ separator ++ joinWith separator (second :: others) := fun _ => rfl
      rw [List.cons_append, List.cons_append, joined, joined, List.prefix_append_right_inj]
      exact ih

theorem textPrefix {before parts : List String} (front : before <+: parts) :
    (text ⟨before⟩).toList <+: (text ⟨parts⟩).toList := by
  simp only [text, joinTexts, String.toList_ofList]
  exact joinPrefix _ (front.map String.toList)

theorem lastNamePrefix (parts : List String) : toLastName parts <+: parts := by
  induction parts using List.reverseRecOn with
  | nil => exact List.nil_prefix
  | append_singleton before part ih =>
    rw [lastNameStep]
    split
    · exact List.prefix_rfl
    · exact ih.trans (List.prefix_append before [part])

theorem lastNameEnds (parts : List String) :
    toLastName parts = [] ∨
      ∃ before name, toLastName parts = before ++ [name] ∧ isName name = true := by
  induction parts using List.reverseRecOn with
  | nil => exact .inl rfl
  | append_singleton before part ih =>
    rw [lastNameStep]
    split
    · rename_i named
      exact .inr ⟨before, part, rfl, named⟩
    · exact ih

structure Before (parts above : List String) : Prop where
  names : above.filter isName = (parts.filter isName).dropLast
  front : above <+: parts
  ends : above = [] ∨ ∃ before name, above = before ++ [name] ∧ isName name = true

theorem beforeOf {parts above : List String} (found : beforeLastName? parts = some above) :
    Before parts above := by
  have kept := namesLastName parts
  have front := lastNamePrefix parts
  unfold beforeLastName? at found
  split at found
  · contradiction
  · rename_i filled
    obtain ⟨before, name, same, named⟩ := (lastNameEnds parts).resolve_left filled
    rw [same] at kept front found
    rw [List.dropLast_concat, Option.some.injEq] at found
    subst found
    refine ⟨?_, (lastNamePrefix before).trans ((List.prefix_append _ _).trans front),
      lastNameEnds before⟩
    rw [namesLastName, ← kept, List.filter_append, List.filter_cons_of_pos named, List.filter_nil,
      List.dropLast_concat]

theorem beforeNone {parts : List String} (none : beforeLastName? parts = none) :
    parts.filter isName = [] := by
  unfold beforeLastName? at none
  split at none
  · rename_i bare
    rw [← namesLastName, bare]
    rfl
  · contradiction

structure IsParent (path above : Path) : Prop where
  names : above.names = path.names.dropLast
  absolute : above.isAbsolute = path.isAbsolute
  text : above.text.toList <+: path.text.toList
  undotted : above.names ≠ [] → above.endsInDot = false

theorem undottedEnds (before : List String) {name : String} (named : isName name = true) :
    endsInDot ⟨before ++ [name]⟩ = false := by
  have filled := nonemptyName named
  have undotted : name ≠ "." := by
    rintro rfl
    contradiction
  simp [endsInDot, filled, undotted]

theorem emptyParent {path : Path} (bare : path.names.dropLast = [])
    (relative : path.isAbsolute = false) : IsParent path empty :=
  ⟨bare.symm, relative.symm, List.nil_prefix, fun filled => absurd rfl filled⟩

theorem dottedParent (rest : List String) :
    IsParent ⟨"." :: rest⟩ ((beforeLastName? rest).elim empty fun above => ⟨"." :: above⟩) := by
  have relative : isAbsolute ⟨"." :: rest⟩ = false := by simp [isAbsolute]
  have all : names ⟨"." :: rest⟩ = rest.filter isName := rfl
  cases before : beforeLastName? rest with
  | none => exact emptyParent (by rw [all, beforeNone before]; rfl) relative
  | some upper =>
    obtain ⟨names, front, ends⟩ := beforeOf before
    refine ⟨names, by simp [isAbsolute],
      textPrefix ((List.prefix_append_right_inj ["."]).2 front), ?_⟩
    intro filled
    rcases ends with rfl | ⟨init, name, rfl, named⟩
    · exact absurd rfl filled
    · exact undottedEnds ("." :: init) named

theorem rootText {rest upper : List String} (filled : rest ≠ []) (front : upper <+: rest) :
    (text ⟨"" :: if upper.isEmpty then [""] else upper⟩).toList <+:
      (text ⟨"" :: rest⟩).toList := by
  cases upper with
  | cons first later => exact textPrefix ((List.prefix_append_right_inj [""]).2 front)
  | nil =>
    cases rest with
    | nil => contradiction
    | cons first later =>
      have slash : (text ⟨["", ""]⟩).toList = ['/'] := rfl
      have joined : (text ⟨"" :: first :: later⟩).toList =
          '/' :: (text ⟨first :: later⟩).toList := by
        simp only [text, joinTexts, String.toList_ofList, List.map_cons]
        rfl
      rw [List.isEmpty_nil, if_pos rfl, slash, joined]
      exact List.prefix_append ['/'] _

theorem rootedParent {rest upper : List String} (before : beforeLastName? rest = some upper) :
    IsParent ⟨"" :: rest⟩ ⟨"" :: if upper.isEmpty then [""] else upper⟩ := by
  obtain ⟨names, front, ends⟩ := beforeOf before
  obtain ⟨kept, absolute⟩ := fromRoot upper
  have filled : rest ≠ [] := by
    rintro rfl
    contradiction
  refine ⟨kept.trans names, ?_, rootText filled front, ?_⟩
  · rw [absolute]
    cases rest with
    | nil => contradiction
    | cons first later => simp [isAbsolute]
  · intro nonempty
    rcases ends with rfl | ⟨init, name, rfl, named⟩
    · rw [kept] at nonempty
      exact absurd rfl nonempty
    · have shape : (init ++ [name]).isEmpty = false := by simp
      rw [shape]
      exact undottedEnds ("" :: init) named

theorem relativeParent {parts upper : List String} (unrooted : parts.head? ≠ some "")
    (before : beforeLastName? parts = some upper) :
    IsParent ⟨parts⟩ (if upper.isEmpty then empty else ⟨upper⟩) := by
  have unrootedFront : ∀ front, front <+: parts → isAbsolute ⟨front⟩ = false := by
    rintro front ⟨after, rfl⟩
    cases front with
    | nil => rfl
    | cons first rest =>
      have other : first ≠ "" := fun same => unrooted (same ▸ rfl)
      simp [isAbsolute, other]
  have relative := unrootedFront parts List.prefix_rfl
  obtain ⟨names, front, ends⟩ := beforeOf before
  rcases ends with rfl | ⟨init, name, rfl, named⟩
  · exact emptyParent names.symm relative
  · have shape : (init ++ [name]).isEmpty = false := by simp
    rw [shape]
    exact ⟨names, (unrootedFront _ front).trans relative.symm, textPrefix front,
      fun _ => undottedEnds init named⟩

theorem parentOf {path above : Path} (found : path.parent? = some above) :
    IsParent path above := by
  obtain ⟨parts⟩ := path
  unfold parent? at found
  split at found
  · rename_i rest same
    have shape : parts = "." :: rest := same
    rw [shape, ← Option.some.inj found]
    exact dottedParent rest
  · rename_i rest same
    have shape : parts = "" :: rest := same
    obtain ⟨upper, before, rfl⟩ := Option.map_eq_some_iff.1 found
    rw [shape]
    exact rootedParent before
  · rename_i undotted unrooted
    obtain ⟨upper, before, rfl⟩ := Option.map_eq_some_iff.1 found
    refine relativeParent ?_ before
    intro rooted
    obtain ⟨rest, same⟩ := List.head?_eq_some_iff.1 rooted
    exact unrooted rest same

theorem parentNone {path : Path} (none : path.parent? = none) : path.names = [] := by
  obtain ⟨parts⟩ := path
  unfold parent? at none
  split at none
  · contradiction
  · rename_i rest same
    have shape : parts = "" :: rest := same
    subst shape
    have bare : beforeLastName? rest = .none := Option.map_eq_none_iff.1 none
    have all : names ⟨"" :: rest⟩ = rest.filter isName := rfl
    rw [all, beforeNone bare]
  · exact beforeNone (Option.map_eq_none_iff.1 none)

end RequestSuite.Files.Path
