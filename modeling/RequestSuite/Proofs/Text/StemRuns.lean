import Mathlib.Data.List.SplitBy
import RequestSuite.Proofs.Text.Cuts
import RequestSuite.Proofs.Text.Stem

/-! What of a name is told by its stem. A name is cut into its longest stretches of letters and
digits or of other characters, and the two kinds take turns. A stem writes each stretch on its own:
a run in small letters, any other stretch as one underscore. The stem is cut at the same places
again, so it tells the runs of the name but for their case, tells whether another character stood in
front or at the end, and tells nothing else. -/
namespace RequestSuite.Text.Stem

def stretches (text : List Char) : List (List Char) :=
  text.splitBy fun before after => isKept before == isKept after

def runs (text : List Char) : List (List Char) := (stretches text).filter (·.all isKept)

def lowered (run : List Char) : List Char := run.map Char.toLower

def opensApart (text : List Char) : Bool := text.head?.any fun c => !isKept c

def closesApart (text : List Char) : Bool := text.getLast?.any fun c => !isKept c

def gapIf (apart : Bool) : List Char := if apart then ['_'] else []

def written (stretch : List Char) : List Char := if stretch.all isKept then lowered stretch else ['_']

inductive Alternates : Bool → List (List Char) → Prop where
  | nil (kept : Bool) : Alternates kept []
  | cons {kept : Bool} {stretch : List Char} {rest : List (List Char)} (filled : stretch ≠ [])
    (alike : ∀ c ∈ stretch, isKept c = kept) (turned : Alternates (!kept) rest) :
    Alternates kept (stretch :: rest)

theorem alternatesSome (text : List Char) :
    ∃ kept parts, Alternates kept parts ∧ parts.flatten = text := by
  induction text with
  | nil => exact ⟨true, [], .nil true, rfl⟩
  | cons c rest ih =>
    obtain ⟨kept, parts, row, rfl⟩ := ih
    have alone : ∀ d ∈ [c], isKept d = isKept c := by simp
    cases row with
    | nil => exact ⟨isKept c, [[c]], .cons (by simp) alone (.nil _), rfl⟩
    | @cons _ stretch others filled alike turned =>
      by_cases same : isKept c = kept
      · refine ⟨kept, (c :: stretch) :: others, .cons (by simp) ?_ turned, rfl⟩
        exact List.forall_mem_cons.2 ⟨same, alike⟩
      · have other : (!isKept c) = kept := (Bool.eq_not.2 same) ▸ Bool.not_not kept
        refine ⟨isKept c, [c] :: stretch :: others, .cons (by simp) alone ?_, rfl⟩
        rw [other]
        exact .cons filled alike turned

namespace Alternates

theorem headKind {kept : Bool} {parts : List (List Char)} (row : Alternates kept parts) :
    ∀ c ∈ parts.flatten.head?, isKept c = kept := by
  cases row with
  | nil => simp
  | @cons _ stretch rest filled alike turned =>
    obtain ⟨first, others, rfl⟩ := List.exists_cons_of_ne_nil filled
    intro c member
    cases member
    exact alike first List.mem_cons_self

theorem cut {kept : Bool} {parts : List (List Char)} (row : Alternates kept parts) :
    stretches parts.flatten = parts := by
  induction row with
  | nil => rfl
  | @cons kept stretch rest filled alike turned ih =>
    have chain : stretch.IsChain fun before after => (isKept before == isKept after) = true :=
      (List.pairwise_of_forall_mem_list fun a first b second => by
        rw [alike a first, alike b second, beq_self_eq_true]).isChain
    have apart : ∀ before ∈ stretch.getLast?, ∀ after ∈ rest.flatten.head?,
        (isKept before == isKept after) = false := by
      intro before last after first
      rw [alike before (List.mem_of_mem_getLast? last), turned.headKind after first]
      cases kept <;> rfl
    rw [stretches, List.flatten_cons, List.splitBy_append apart,
      List.splitBy_of_isChain filled chain]
    exact congrArg (stretch :: ·) ih

end Alternates

theorem stretchesAlternate (text : List Char) : ∃ kept, Alternates kept (stretches text) := by
  obtain ⟨kept, parts, row, rfl⟩ := alternatesSome text
  exact ⟨kept, row.cut.symm ▸ row⟩

theorem stretchesWhole (text : List Char) : (stretches text).flatten = text :=
  List.flatten_splitBy _ text

theorem allKept {stretch : List Char} {kept : Bool} (filled : stretch ≠ [])
    (alike : ∀ c ∈ stretch, isKept c = kept) : stretch.all isKept = kept := by
  cases kept with
  | true => exact List.all_eq_true.2 alike
  | false =>
    obtain ⟨first, others, rfl⟩ := List.exists_cons_of_ne_nil filled
    rw [List.all_cons, alike first List.mem_cons_self, Bool.false_and]

theorem closesOne {stretch : List Char} {kept : Bool} (filled : stretch ≠ [])
    (alike : ∀ c ∈ stretch, isKept c = kept) : closesApart stretch = !kept := by
  have last := alike _ (List.getLast_mem filled)
  rw [closesApart, List.getLast?_eq_some_getLast filled, Option.any_some, last]

theorem writtenKind {stretch : List Char} {kept : Bool} (filled : stretch ≠ [])
    (alike : ∀ c ∈ stretch, isKept c = kept) :
    written stretch = if kept then lowered stretch else ['_'] := by
  rw [written, allKept filled alike]

theorem smallKept {c : Char} (small : c.isLower = true ∨ c.isDigit = true) :
    isKept c = true ∧ c.toLower = c := by
  have kept : isKept c = true := by
    rw [keptClasses]
    rcases small with lower | digit
    · rw [lower, Bool.or_true, Bool.true_or]
    · rw [digit, Bool.or_true]
  refine ⟨kept, dif_neg fun letters => ?_⟩
  rw [ge_iff_le, UInt32.le_iff_toNat_le, UInt32.le_iff_toNat_le] at letters
  have row : 65 ≤ c.val.toNat ∧ c.val.toNat ≤ 90 := letters
  rcases small with lower | digit
  · have above := (lowerRow.1 lower).1
    rw [UInt32.le_iff_toNat_le] at above
    have first : 'a'.val.toNat = 97 := by decide
    omega
  · have below := (Bool.and_eq_true_iff.1 digit).2
    rw [decide_eq_true_eq, UInt32.le_iff_toNat_le] at below
    have last : '9'.val.toNat = 57 := by decide
    omega

theorem loweredKept {run : List Char} (kept : ∀ c ∈ run, isKept c = true) :
    (∀ c ∈ lowered run, isKept c = true) ∧ lowered (lowered run) = lowered run := by
  have small : ∀ c ∈ lowered run, isKept c = true ∧ c.toLower = c := by
    intro c member
    obtain ⟨d, inside, rfl⟩ := List.mem_map.1 member
    exact smallKept (lowerSmall (kept d inside))
  exact ⟨fun c member => (small c member).1,
    (List.map_congr_left fun c member => (small c member).2).trans (List.map_id _)⟩

theorem writtenFilled {stretch : List Char} (filled : stretch ≠ []) : written stretch ≠ [] := by
  unfold written
  split
  · simpa [lowered] using filled
  · simp

theorem writtenAlike {stretch : List Char} {kept : Bool} (filled : stretch ≠ [])
    (alike : ∀ c ∈ stretch, isKept c = kept) : ∀ c ∈ written stretch, isKept c = kept := by
  rw [writtenKind filled alike]
  cases kept with
  | true => exact (loweredKept alike).1
  | false =>
    intro c member
    rw [List.mem_singleton.1 member]
    rfl

theorem writtenTwice {stretch : List Char} {kept : Bool} (filled : stretch ≠ [])
    (alike : ∀ c ∈ stretch, isKept c = kept) : written (written stretch) = written stretch := by
  rw [writtenKind (writtenFilled filled) (writtenAlike filled alike), writtenKind filled alike]
  cases kept with
  | true => exact (loweredKept alike).2
  | false => rfl

theorem collapseKept {stretch : List Char} (filled : stretch ≠ [])
    (kept : ∀ c ∈ stretch, isKept c = true) (gap : Bool) (rest : List Char) :
    collapse gap (stretch ++ rest) = lowered stretch ++ collapse false rest := by
  induction stretch generalizing gap with
  | nil => contradiction
  | cons c others ih =>
    obtain ⟨first, later⟩ := List.forall_mem_cons.1 kept
    rw [List.cons_append, collapse, if_pos first]
    cases others with
    | nil => rfl
    | cons d others => rw [ih (by simp) later]; rfl

theorem collapsePassed {stretch : List Char} (other : ∀ c ∈ stretch, isKept c = false)
    (rest : List Char) : collapse true (stretch ++ rest) = collapse true rest := by
  induction stretch with
  | nil => rfl
  | cons c others ih =>
    obtain ⟨first, later⟩ := List.forall_mem_cons.1 other
    rw [List.cons_append, collapse, if_neg (by simp [first]), if_pos rfl, ih later]

namespace Alternates

theorem collapsed {kept : Bool} {parts : List (List Char)} (row : Alternates kept parts)
    {gap : Bool} (closed : gap = true → kept = true) :
    collapse gap parts.flatten = parts.flatMap written := by
  induction row generalizing gap with
  | nil => rfl
  | @cons kept stretch rest filled alike turned ih =>
    rw [List.flatten_cons, List.flatMap_cons, writtenKind filled alike]
    cases kept with
    | true => rw [collapseKept filled alike, ih (by simp)]; rfl
    | false =>
      have fresh : gap = false := by
        cases gap with
        | true => exact absurd (closed rfl) (by simp)
        | false => rfl
      obtain ⟨first, others, rfl⟩ := List.exists_cons_of_ne_nil filled
      obtain ⟨front, later⟩ := List.forall_mem_cons.1 alike
      rw [fresh, List.cons_append, collapse, if_neg (by simp [front]), if_neg (by simp),
        collapsePassed later, ih (by simp)]
      rfl

theorem mapWritten {kept : Bool} {parts : List (List Char)} (row : Alternates kept parts) :
    Alternates kept (parts.map written) := by
  induction row with
  | nil => exact .nil _
  | cons filled alike turned ih =>
    exact .cons (writtenFilled filled) (writtenAlike filled alike) ih

theorem writtenAgain {kept : Bool} {parts : List (List Char)} (row : Alternates kept parts) :
    ∀ stretch ∈ parts, written (written stretch) = written stretch := by
  induction row with
  | nil => simp
  | cons filled alike turned ih => exact List.forall_mem_cons.2 ⟨writtenTwice filled alike, ih⟩

theorem runsWritten {kept : Bool} {parts : List (List Char)} (row : Alternates kept parts) :
    (parts.map written).filter (·.all isKept) = (parts.filter (·.all isKept)).map lowered := by
  induction row with
  | nil => rfl
  | @cons kept stretch rest filled alike turned ih =>
    have same := allKept (writtenFilled filled) (writtenAlike filled alike)
    rw [List.map_cons, List.filter_cons, List.filter_cons, same, allKept filled alike, ih,
      writtenKind filled alike]
    cases kept <;> rfl

theorem opens {kept : Bool} {parts : List (List Char)} (row : Alternates kept parts) :
    opensApart parts.flatten = (!kept && !parts.isEmpty) := by
  cases row with
  | nil => simp [opensApart]
  | @cons _ stretch rest filled alike turned =>
    obtain ⟨first, others, rfl⟩ := List.exists_cons_of_ne_nil filled
    have front := alike first List.mem_cons_self
    simp [opensApart, front]

theorem someFlatten {kept : Bool} {parts : List (List Char)} (row : Alternates kept parts)
    (some : parts ≠ []) : parts.flatten ≠ [] := by
  cases row with
  | nil => contradiction
  | cons filled alike turned => simp [filled]

theorem closesLater {stretch : List Char} {kept : Bool} {rest : List (List Char)}
    (turned : Alternates kept rest) (more : rest ≠ []) :
    closesApart (stretch :: rest).flatten = closesApart rest.flatten := by
  rw [closesApart, List.flatten_cons, List.getLast?_append_of_ne_nil _ (turned.someFlatten more),
    closesApart]

theorem closesWritten {kept : Bool} {parts : List (List Char)} (row : Alternates kept parts) :
    closesApart (parts.map written).flatten = closesApart parts.flatten := by
  induction row with
  | nil => rfl
  | @cons kept stretch rest filled alike turned ih =>
    by_cases more : rest = []
    · subst more
      have one := closesOne filled alike
      have again := closesOne (writtenFilled filled) (writtenAlike filled alike)
      simpa using again.trans one.symm
    · rw [closesLater turned more, List.map_cons,
        closesLater turned.mapWritten (by simpa using more), ih]

/- The underscores of a stem stand between two runs, before the first and after the last. A gap after
the last run is only there if there is one; without any run the whole name is one gap. -/
theorem joined {kept : Bool} {parts : List (List Char)} (row : Alternates kept parts) :
    parts.flatMap written =
      gapIf (!kept && !parts.isEmpty) ++
        joinWith ['_'] ((parts.filter (·.all isKept)).map lowered) ++
        gapIf (closesApart parts.flatten && !(parts.filter (·.all isKept)).isEmpty) := by
  induction row with
  | nil => simp [gapIf, joinWith, closesApart]
  | @cons kept stretch rest filled alike turned ih =>
    rw [List.flatMap_cons, ih, writtenKind filled alike, List.filter_cons, allKept filled alike]
    cases turned with
    | nil =>
      have last := closesOne filled alike
      cases kept <;> simp [gapIf, joinWith, last]
    | @cons _ next others present same after =>
      rw [closesLater (.cons present same after) (List.cons_ne_nil next others)]
      cases kept with
      | false => simp [gapIf]
      | true =>
        have skipped := allKept present same
        cases after with
        | nil => simp [gapIf, joinWith, skipped, closesOne present same]
        | @cons _ third _ there again _ =>
          have found := allKept there again
          simp [gapIf, joinWith, skipped, found]

end Alternates

theorem collapseStretches (text : List Char) :
    collapse false text = (stretches text).flatMap written := by
  obtain ⟨kept, row⟩ := stretchesAlternate text
  have whole : collapse false (stretches text).flatten = (stretches text).flatMap written :=
    row.collapsed (by simp)
  rwa [stretchesWhole] at whole

theorem stretchesCollapse (text : List Char) :
    stretches (collapse false text) = (stretches text).map written := by
  obtain ⟨kept, row⟩ := stretchesAlternate text
  rw [collapseStretches, List.flatMap_def]
  exact row.mapWritten.cut

theorem collapseTwice (text : List Char) :
    collapse false (collapse false text) = collapse false text := by
  obtain ⟨kept, row⟩ := stretchesAlternate text
  rw [collapseStretches (collapse false text), stretchesCollapse, List.flatMap_map,
    collapseStretches]
  exact List.flatMap_congr row.writtenAgain

theorem runsCollapse (text : List Char) :
    runs (collapse false text) = (runs text).map lowered := by
  obtain ⟨kept, row⟩ := stretchesAlternate text
  rw [runs, stretchesCollapse, row.runsWritten, runs]

theorem opensCollapse (text : List Char) : opensApart (collapse false text) = opensApart text := by
  obtain ⟨kept, row⟩ := stretchesAlternate text
  have again := row.mapWritten.opens
  rw [← stretchesCollapse, stretchesWhole] at again
  have first := row.opens
  rw [stretchesWhole] at first
  rw [again, first, stretchesCollapse, List.isEmpty_map]

theorem closesCollapse (text : List Char) :
    closesApart (collapse false text) = closesApart text := by
  obtain ⟨kept, row⟩ := stretchesAlternate text
  have same := row.closesWritten
  rwa [← stretchesCollapse, stretchesWhole, stretchesWhole] at same

def framed (opens closes : Bool) (runs : List (List Char)) : List Char :=
  gapIf opens ++ joinWith ['_'] runs ++ gapIf (closes && !runs.isEmpty)

theorem collapseFramed (text : List Char) :
    collapse false text =
      framed (opensApart text) (closesApart text) ((runs text).map lowered) := by
  obtain ⟨kept, row⟩ := stretchesAlternate text
  have opens := row.opens
  rw [stretchesWhole] at opens
  have parts := row.joined
  rw [← collapseStretches, stretchesWhole, ← opens] at parts
  rw [framed, List.isEmpty_map]
  exact parts

theorem markOther {c : Char} (kept : isKept c = true) : c ≠ '_' := by
  rintro rfl
  contradiction

theorem collapseSingle (gap : Bool) (text : List Char) :
    ¬ ['_', '_'] <:+: collapse gap text ∧ (gap = true → ¬ ['_'] <+: collapse gap text) := by
  induction text generalizing gap with
  | nil => simp [collapse]
  | cons c rest ih =>
    unfold collapse
    split
    · rename_i kept
      have letter : '_' ≠ c.toLower := (markOther (smallKept (lowerSmall kept)).1).symm
      simp [List.infix_cons_iff, letter, (ih false).1]
    · split
      · rename_i open_
        exact ⟨(ih true).1, fun _ => (ih true).2 rfl⟩
      · rename_i closed
        obtain ⟨inside, first⟩ := ih true
        refine ⟨?_, fun open_ => absurd open_ closed⟩
        rw [List.infix_cons_iff, List.cons_prefix_cons]
        rintro (⟨-, next⟩ | later)
        · exact first rfl next
        · exact inside later

theorem collapseNothing {text : List Char} (empty : collapse false text = []) : text = [] := by
  cases text with
  | nil => rfl
  | cons c rest =>
    unfold collapse at empty
    split at empty <;> simp at empty

theorem stemTellsRuns (name : String) :
    (stretches name.toList).flatten = name.toList ∧
      (∃ kept, Alternates kept (stretches name.toList)) ∧
      (ofText name).toList =
        framed (opensApart name.toList) (closesApart name.toList)
          ((runs name.toList).map lowered) ∧
      (∀ c ∈ (ofText name).toList, isStemChar c = true) ∧
      ¬ ['_', '_'] <:+: (ofText name).toList ∧
      ofText (ofText name) = ofText name ∧
      (ofText name = "" ↔ name = "") ∧
      ∀ other, ofText name = ofText other ↔
        (runs name.toList).map lowered = (runs other.toList).map lowered ∧
          opensApart name.toList = opensApart other.toList ∧
          closesApart name.toList = closesApart other.toList := by
  have stem : ∀ name : String, (ofText name).toList = collapse false name.toList :=
    fun name => String.toList_ofList
  refine ⟨stretchesWhole _, stretchesAlternate _, ?_, ?_, ?_, ?_, ?_, ?_⟩
  · rw [stem, collapseFramed]
  · rw [stem]
    exact collapseChars false name.toList
  · rw [stem]
    exact (collapseSingle false name.toList).1
  · rw [← String.toList_inj, stem, stem, collapseTwice]
  · rw [← String.toList_inj, ← String.toList_inj, stem]
    refine ⟨collapseNothing, fun empty => ?_⟩
    rw [empty]
    rfl
  · intro other
    rw [← String.toList_inj, stem, stem]
    constructor
    · intro same
      rw [← runsCollapse, ← runsCollapse, ← opensCollapse name.toList, ← closesCollapse name.toList,
        same, opensCollapse, closesCollapse]
      exact ⟨rfl, rfl, rfl⟩
    · rintro ⟨runs, opens, closes⟩
      rw [collapseFramed, collapseFramed other.toList, runs, opens, closes]

example : (ofText "API / \u212Aelvin").toList = "api_elvin".toList := by decide

end RequestSuite.Text.Stem
