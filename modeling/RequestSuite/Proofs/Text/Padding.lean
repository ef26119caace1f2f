import Mathlib.Data.Option.Basic
import RequestSuite.Proofs.Text.Words
import RequestSuite.Text.Blank
import RequestSuite.Text.Digit

/-! White space at the end of a text. A reader of words goes over a text no further for it, and what
it leaves differs in that white space only. -/
namespace RequestSuite.Text

def Blank (gap : List Char) : Prop := ∀ c ∈ gap, isBlank c = true

instance (gap : List Char) : Decidable (Blank gap) :=
  List.decidableBAll (fun c => isBlank c = true) gap

def Padded (text padded : List Char) : Prop := ∃ gap, Blank gap ∧ padded = text ++ gap

def Solid (word : List Char) : Prop := word ≠ [] ∧ word.all (!isBlank ·) = true

instance (word : List Char) : Decidable (Solid word) :=
  inferInstanceAs (Decidable (word ≠ [] ∧ word.all (!isBlank ·) = true))

theorem Solid.unblank {word : List Char} (solid : Solid word) {c : Char} (member : c ∈ word) :
    isBlank c = false := by
  simpa using List.all_eq_true.1 solid.2 c member

theorem blankUndecimal {c : Char} (blank : isBlank c = true) : isDecimal c = false := by
  have codes : ∀ n ∈ List.range 14 ++ [0x20, 0x85, 0xA0, 0x1680] ++ List.range' 0x2000 11 ++
      [0x2028, 0x2029, 0x202F, 0x205F, 0x3000],
      (digitZeros.any fun first => first ≤ n && n < first + 10) = false := by decide
  refine codes c.toNat ?_
  simp only [isBlank, Bool.or_eq_true, Bool.and_eq_true, decide_eq_true_eq, beq_iff_eq] at blank
  simp only [List.mem_append, List.mem_range, List.mem_range'_1, List.mem_cons,
    List.not_mem_nil, or_false]
  omega

theorem blankApart {word gap : List Char} (solid : Solid word) (blank : Blank gap)
    (text : List Char) : Apart word text gap := by
  refine apartOther ?_ text
  intro c inGap inWord
  have filled := solid.unblank inWord
  rw [blank c inGap] at filled
  contradiction

theorem containsBlank {word gap : List Char} (solid : Solid word) (blank : Blank gap) :
    contains word gap = false := by
  refine Bool.eq_false_iff.2 fun found => ?_
  obtain ⟨c, rest, rfl⟩ := List.exists_cons_of_ne_nil solid.1
  have filled := solid.unblank List.mem_cons_self
  rw [blank c (containsSubset found List.mem_cons_self)] at filled
  contradiction

theorem containsPadded {word text padded : List Char} (solid : Solid word)
    (pad : Padded text padded) : contains word padded = contains word text := by
  obtain ⟨gap, blank, rfl⟩ := pad
  rw [containsApart solid.1 (blankApart solid blank text), containsBlank solid blank, Bool.or_false]

theorem wordPadded {word text padded : List Char} (solid : Solid word)
    (pad : Padded text padded) :
    Option.Rel Padded (word.isPrefixOf? text) (word.isPrefixOf? padded) := by
  obtain ⟨gap, blank, rfl⟩ := pad
  cases text with
  | nil =>
    rw [List.nil_append, absentStart (containsBlank solid blank),
      absentStart (containsBlank solid (List.forall_mem_nil _))]
    exact .none
  | cons c text =>
    rw [startApart (blankApart solid blank (c :: text))]
    cases word.isPrefixOf? (c :: text) with
    | none => exact .none
    | some rest => exact .some ⟨gap, blank, rfl⟩

theorem skipBlanksPadded {text padded : List Char} (pad : Padded text padded) :
    Padded (skipBlanks text) (skipBlanks padded) := by
  obtain ⟨gap, blank, rfl⟩ := pad
  rw [skipBlanks, skipBlanks, List.dropWhile_append]
  split
  · rename_i none
    refine ⟨[], List.forall_mem_nil _, ?_⟩
    rw [List.isEmpty_iff.1 none]
    exact List.dropWhile_eq_nil_iff.2 blank
  · exact ⟨gap, blank, rfl⟩

theorem trimPadded {text padded : List Char} (pad : Padded text padded) :
    trim padded = trim text := by
  obtain ⟨gap, blank, same⟩ := skipBlanksPadded pad
  have back : ∀ c ∈ gap.reverse, isBlank c = true :=
    fun c member => blank c (List.mem_reverse.1 member)
  rw [trim, same, List.reverse_append, skipBlanks, List.dropWhile_append_of_pos back]
  rfl

theorem trimGap (text : List Char) : ∃ gap, Blank gap ∧ skipBlanks text = trim text ++ gap := by
  refine ⟨((skipBlanks text).reverse.takeWhile isBlank).reverse, ?_, ?_⟩
  · exact fun c member => List.mem_takeWhile_imp (List.mem_reverse.1 member)
  · have back : skipBlanks (skipBlanks text).reverse =
        (skipBlanks text).reverse.dropWhile isBlank := rfl
    rw [trim, back, ← List.reverse_append, List.takeWhile_append_dropWhile, List.reverse_reverse]

theorem trimLast {text : List Char} {c : Char} (last : (trim text).getLast? = some c) :
    isBlank c = false := by
  rw [trim, List.getLast?_reverse, skipBlanks] at last
  have first := List.head?_dropWhile_not isBlank (skipBlanks text).reverse
  rw [last] at first
  simpa using first

theorem trimWhole {text : List Char} (first : ∀ c ∈ text.head?, isBlank c = false)
    (last : ∀ c ∈ text.getLast?, isBlank c = false) : trim text = text := by
  have stays {text : List Char} (first : ∀ c ∈ text.head?, isBlank c = false) :
      skipBlanks text = text := by
    cases text with
    | nil => rfl
    | cons c rest => rw [skipBlanks, List.dropWhile_cons_of_neg (by simp [first c rfl])]
  rw [trim, stays first, stays (List.head?_reverse ▸ last), List.reverse_reverse]

theorem trimUnblank {text : List Char} (filled : ∀ c ∈ text, isBlank c = false) :
    trim text = text :=
  trimWhole (fun c first => filled c (List.mem_of_mem_head? first))
    fun c last => filled c (List.mem_of_getLast? last)

/- What passes over one white space in front of a text passes over any. -/
theorem indentedFree {α : Type} {read : List Char → α}
    (indented : ∀ c, isBlank c = true → ∀ text, read (c :: text) = read text) {lead : List Char}
    (blank : Blank lead) (text : List Char) : read (lead ++ text) = read text := by
  induction lead with
  | nil => rfl
  | cons c lead ih =>
    obtain ⟨first, later⟩ := List.forall_mem_cons.1 blank
    rw [List.cons_append, indented c first, ih later]

theorem trimIndented {c : Char} (blank : isBlank c = true) (text : List Char) :
    trim (c :: text) = trim text := by
  rw [trim, skipBlanks, skipBlanks, List.dropWhile_cons_of_pos blank]
  rfl

theorem trimSurrounded {lead gap : List Char} (before : Blank lead) (after : Blank gap)
    (text : List Char) : trim (lead ++ text ++ gap) = trim text := by
  rw [trimPadded ⟨gap, after, rfl⟩]
  exact indentedFree (fun _ => trimIndented) before text

end RequestSuite.Text
