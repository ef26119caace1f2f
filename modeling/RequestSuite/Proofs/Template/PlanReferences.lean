import RequestSuite.Proofs.Template.Refilling
import RequestSuite.Proofs.Text.Padding
import RequestSuite.Template.PlanReference

/-! Templates on their way into a load-test plan. Holes are read twice, once with all that stands in
the braces as a name that is trimmed, once with the white space told apart from the name; both read
the same name. So a hole that the first pass leaves becomes a reference of that name in the second,
and the values of the others, and the texts between, stay. -/
namespace RequestSuite.Template.PlanReference
open Text

theorem closingStep {c : Char} (other : c ≠ '}') (rest : List Char) :
    closing (c :: rest) = if isBlank c then closing rest else none := by
  rw [closing]
  exact fun _ same => absurd same other

theorem closingGap {gap : List Char} (blank : Blank gap) (after : List Char) :
    closing (gap ++ '}' :: '}' :: after) = some after := by
  induction gap with
  | nil => rfl
  | cons c gap ih =>
    obtain ⟨first, later⟩ := List.forall_mem_cons.1 blank
    have other : c ≠ '}' := by
      rintro rfl
      exact absurd first (by decide)
    rw [List.cons_append, closingStep other, if_pos first, ih later]

theorem closingWord {word : List Char} (closed : ∀ c ∈ word, c ≠ '}')
    (filled : ∃ c ∈ word, isBlank c = false) (after : List Char) :
    closing (word ++ after) = none := by
  induction word with
  | nil => simp at filled
  | cons c word ih =>
    obtain ⟨other, later⟩ := List.forall_mem_cons.1 closed
    rw [List.cons_append, closingStep other]
    split
    · rename_i blank
      obtain ⟨d, member, found⟩ := filled
      rcases List.mem_cons.1 member with rfl | inside
      · rw [found] at blank
        contradiction
      · exact ih later ⟨d, inside, found⟩
    · rfl

theorem nameEndStep {before : Nat} {c : Char} {rest : List Char} (feed : c ≠ '\n')
    (open' : isBlank c = true ∨ closing rest = none) :
    nameEnd before (c :: rest) = nameEnd (before + 1) rest := by
  rw [nameEnd, if_neg feed]
  rcases open' with blank | none
  · rw [if_pos blank]
  · rw [none, ite_self]

/- The shortest name that white space and a closing follow is all up to that white space, since a
name does not end in a blank and has no closing brace. -/
theorem nameEndWord {word gap : List Char} (filled : word ≠ [])
    (closed : ∀ c ∈ word, c ≠ '}' ∧ c ≠ '\n')
    (last : ∀ c, word.getLast? = some c → isBlank c = false) (blank : Blank gap)
    (before : Nat) (after : List Char) :
    nameEnd before (word ++ (gap ++ '}' :: '}' :: after)) = some (before + word.length, after) := by
  induction word generalizing before with
  | nil => contradiction
  | cons c word ih =>
    obtain ⟨⟨-, feed⟩, later⟩ := List.forall_mem_cons.1 closed
    rw [List.cons_append]
    by_cases one : word = []
    · subst one
      have ends := last c rfl
      rw [List.nil_append, nameEnd, if_neg feed, ends, closingGap blank]
      rfl
    · have last' : ∀ d, word.getLast? = some d → isBlank d = false := by
        intro d ends
        refine last d ?_
        rw [List.getLast?_cons, ends]
        rfl
      have open' : closing (word ++ (gap ++ '}' :: '}' :: after)) = none := by
        refine closingWord (fun d member => (later d member).1) ⟨word.getLast one, ?_, ?_⟩ _
        · exact List.getLast_mem one
        · exact last' _ (List.getLast?_eq_some_getLast one)
      rw [nameEndStep feed (.inr open'), ih one later last', List.length_cons]
      congr 2
      omega

theorem nameWord {word gap : List Char} (filled : word ≠ [])
    (closed : ∀ c ∈ word, c ≠ '}' ∧ c ≠ '\n')
    (last : ∀ c, word.getLast? = some c → isBlank c = false) (blank : Blank gap)
    (after : List Char) :
    name (word ++ (gap ++ '}' :: '}' :: after)) = some (word, after) := by
  rw [name, nameEndWord filled closed last blank, Nat.zero_add]
  exact congrArg (fun found => some (found, after)) List.take_left

theorem holeTrimmed {name : List Char} (plain : Plain name)
    (filled : ∃ c ∈ name, isBlank c = false) (after : List Char) :
    hole (reopen name ++ after) = some (trim name, after) := by
  obtain ⟨c, member, found⟩ := filled
  obtain ⟨gap, blank, split⟩ := trimGap name
  have begun : trim name ≠ [] := List.ne_nil_of_mem (trimKeeps member found)
  have closed : ∀ d ∈ trim name, d ≠ '}' ∧ d ≠ '\n' :=
    fun d inside => plain.closed d (trimSubset name inside)
  have front : skipBlanks (name ++ '}' :: '}' :: after) =
      trim name ++ (gap ++ '}' :: '}' :: after) := by
    have left : (name.dropWhile isBlank).isEmpty = false :=
      List.isEmpty_eq_false_iff.2 (List.ne_nil_of_mem (skipBlanksKeeps member found))
    rw [skipBlanks, List.dropWhile_append, left, ← List.append_assoc, ← split]
    rfl
  have read := nameWord begun closed (fun _ => trimLast) blank after
  rw [reopenText, hole, padded, front]
  simp only [read]

theorem holeOpens (text : List Char) (absent : opening.isPrefixOf? text = none) :
    hole text = none := by
  unfold hole
  split
  · rename_i rest
    have opens : opening.isPrefixOf? ('{' :: '{' :: rest) = some rest := rfl
    rw [opens] at absent
    contradiction
  · rfl

theorem referUnopened {name : List Char} (unbraced : '{' ∉ name) :
    contains opening (refer name) = false := by
  have rest : '{' ∉ name ++ ['}'] := by simp [unbraced]
  obtain ⟨c, more, split⟩ := List.exists_cons_of_ne_nil (List.concat_ne_nil '}' name)
  have second : opening.isPrefixOf? ('{' :: c :: more) = none := by
    have other : c ≠ '{' := fun same => rest (by simp [split, same])
    simp [opening, List.isPrefixOf?, Ne.symm other]
  have text : refer name = '$' :: '{' :: c :: more := by rw [refer, ← split]; rfl
  rw [text, containsCons, containsCons, second, ← split, unopenedOf rest]
  rfl

end RequestSuite.Template.PlanReference

namespace RequestSuite.Template
open Text

theorem filledNext (fill : List Char → List Char) (slot : Slot) (slots : List Slot)
    (tail : List Char) :
    filled fill (slot :: slots) tail = slot.lead ++ (fill slot.name ++ filled fill slots tail) := by
  simp [filled]

end RequestSuite.Template

namespace RequestSuite.Variable.Store
open Template

def planned (store : Store) (name : List Char) : List Char :=
  match store.get? (String.ofList (Text.trim name)) with
  | some value => value.display.toList
  | none => PlanReference.refer (Text.trim name)

section
variable {store : Store} (unbraced : store.Unbraced)
include unbraced

theorem plannedUnopened {name : List Char} (plain : Plain name) :
    Text.contains opening (store.planned name) = false ∧
      ∀ after, Text.Apart opening (store.planned name) after := by
  rw [planned]
  cases known : store.get? (String.ofList (Text.trim name)) with
  | some value =>
    have absent := unbraced _ _ known
    exact ⟨unopenedOf absent, apartUnbraced absent⟩
  | none =>
    refine ⟨PlanReference.referUnopened fun member => ?_, apartOpening ?_⟩
    · exact (plain.2 _ (Text.trimSubset name member)).1 rfl
    · rw [PlanReference.refer, List.getLast?_concat]
      decide

theorem plannedSlotsUnopened (slots : List Slot) {tail : List Char}
    (unopened : Text.contains opening tail = false) :
    Text.contains opening (filled store.planned slots tail) = false := by
  induction slots with
  | nil => exact unopened
  | cons slot slots ih =>
    obtain ⟨name, apart⟩ := plannedUnopened unbraced slot.plain
    rw [filledNext, Text.containsApart (by decide) (apartOpening slot.shut _), slot.unopened,
      Text.containsApart (by decide) (apart _), name, ih]
    rfl

theorem referShown {name : List Char} (plain : Plain name)
    (named : ∃ c ∈ name, Text.isBlank c = false) (after : List Char) :
    Text.replaceHits PlanReference.hole PlanReference.refer (store.shown name ++ after) =
      store.planned name ++ Text.replaceHits PlanReference.hole PlanReference.refer after := by
  rw [shown, planned]
  cases known : store.get? (String.ofList (Text.trim name)) with
  | some value =>
    have absent := unbraced _ _ known
    exact Text.passOver PlanReference.holeOpens (unopenedOf absent) (apartUnbraced absent _) _
  | none =>
    have read := PlanReference.holeTrimmed plain named after
    rw [reopenText] at read
    simp only [reopenText]
    exact Text.passHit read (reopenSuffix name after) _

theorem referSlots {slots : List Slot}
    (named : ∀ slot ∈ slots, ∃ c ∈ slot.name, Text.isBlank c = false) {tail : List Char}
    (unopened : Text.contains opening tail = false) :
    Text.replaceHits PlanReference.hole PlanReference.refer (filled store.shown slots tail) =
      filled store.planned slots tail := by
  induction slots with
  | nil =>
    have passed := Text.passOver PlanReference.holeOpens unopened (Text.apartNothing opening tail)
      PlanReference.refer
    rw [List.append_nil] at passed
    exact passed.trans (List.append_nil tail)
  | cons slot slots ih =>
    obtain ⟨first, later⟩ := List.forall_mem_cons.1 named
    have lead := apartOpening slot.shut (store.shown slot.name ++ filled store.shown slots tail)
    rw [filledNext, Text.passOver PlanReference.holeOpens slot.unopened lead,
      referShown unbraced slot.plain first, ih later, filledNext]

end

theorem planTemplate (store : Store) (unbraced : store.Unbraced) (slots : List Slot)
    (named : ∀ slot ∈ slots, ∃ c ∈ slot.name, Text.isBlank c = false) {tail : List Char}
    (unopened : Text.contains opening tail = false) :
    PlanReference.substitute (store.substitute (String.ofList (template slots tail))) =
        String.ofList (filled store.planned slots tail) ∧
      Text.contains opening
        (PlanReference.substitute
          (store.substitute (String.ofList (template slots tail)))).toList = false := by
  have result : PlanReference.substitute (store.substitute (String.ofList (template slots tail))) =
      String.ofList (filled store.planned slots tail) := by
    rw [substitute, Template.substitute, String.toList_ofList, fillShown, replaceSlots _ _ unopened,
      PlanReference.substitute, String.toList_ofList, referSlots unbraced named unopened]
  refine ⟨result, ?_⟩
  rw [result, String.toList_ofList]
  exact plannedSlotsUnopened unbraced slots unopened

def spacedSlots : List Slot :=
  [⟨"\x7b \x7d\x7d".toList, "\u2003a\u00a0".toList, by decide, by decide, by decide⟩,
    ⟨"$".toList, "\t\u3000b c\u0085".toList, by decide, by decide, by decide⟩]

theorem spacedPlanned :
    closings.Unbraced ∧ (∀ slot ∈ spacedSlots, ∃ c ∈ slot.name, Text.isBlank c = false) ∧
      Text.contains opening "\x7b".toList = false ∧
      PlanReference.substitute
          (closings.substitute (String.ofList (template spacedSlots "\x7b".toList))) =
        "\x7b \x7d\x7d\x7d\x7d $1$$\x7bb c\x7d\x7b" := by
  have unbraced : closings.Unbraced := by decide
  have named : ∀ slot ∈ spacedSlots, ∃ c ∈ slot.name, Text.isBlank c = false :=
    List.forall_mem_cons.2 ⟨⟨'a', by decide, by decide⟩,
      List.forall_mem_singleton.2 ⟨'b', by decide, by decide⟩⟩
  have unopened : Text.contains opening "\x7b".toList = false := by decide
  refine ⟨unbraced, named, unopened, ?_⟩
  rw [(planTemplate closings unbraced spacedSlots named unopened).1]
  decide

end RequestSuite.Variable.Store
