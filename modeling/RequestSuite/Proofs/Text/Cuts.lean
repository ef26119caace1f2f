import Mathlib.Data.List.Basic
import Mathlib.Data.List.TakeWhile
import RequestSuite.Text.Blank
import RequestSuite.Text.Lines
import RequestSuite.Text.Scan

/-! Cutting a text, at every place of a character or at the first place of a word, and replacing a
word in it. A cut loses nothing but what it cuts at, and no character comes from elsewhere. -/
namespace RequestSuite.Text

theorem cutRow {fits : Char → Bool} {row rest : List Char} (inside : ∀ c ∈ row, fits c = true)
    (stops : ∀ c ∈ rest.head?, fits c = false) :
    (row ++ rest).takeWhile fits = row ∧ (row ++ rest).dropWhile fits = rest := by
  rw [List.takeWhile_append_of_pos inside, List.dropWhile_append_of_pos inside]
  cases rest with
  | nil => exact ⟨List.append_nil row, rfl⟩
  | cons c rest =>
    have other : ¬ fits c = true := Bool.eq_false_iff.1 (stops c rfl)
    rw [List.takeWhile_cons_of_neg other, List.dropWhile_cons_of_neg other, List.append_nil]
    exact ⟨rfl, rfl⟩

theorem splitAtSplitOn (separator : Char) (text : List Char) :
    splitAt separator text = text.splitOn separator := by
  induction text with
  | nil => rfl
  | cons c rest ih =>
    rw [splitAt, ih, List.splitOn_cons_eq_if_modifyHead]
    simp only [beq_iff_eq]
    cases cut : rest.splitOn separator with
    | nil => exact absurd cut (List.splitOn_ne_nil separator rest)
    | cons part parts => rfl

theorem splitAtAppend (separator : Char) (before after : List Char) :
    splitAt separator (before ++ separator :: after) =
      splitAt separator before ++ splitAt separator after := by
  simp only [splitAtSplitOn, List.splitOn_append_cons_self]

theorem splitAtWhole {separator : Char} {text : List Char} (absent : separator ∉ text) :
    splitAt separator text = [text] := by
  rw [splitAtSplitOn, List.splitOn_eq_singleton absent]

theorem splitAtJoin {separator : Char} {parts : List (List Char)} (filled : parts ≠ [])
    (absent : ∀ part ∈ parts, separator ∉ part) :
    splitAt separator (joinWith [separator] parts) = parts := by
  induction parts with
  | nil => contradiction
  | cons part rest ih =>
    obtain ⟨first, later⟩ := List.forall_mem_cons.1 absent
    cases rest with
    | nil => exact splitAtWhole first
    | cons next others =>
      have joined : joinWith [separator] (part :: next :: others) =
          part ++ separator :: joinWith [separator] (next :: others) := by simp [joinWith]
      rw [joined, splitAtAppend, splitAtWhole first, ih (List.cons_ne_nil _ _) later]
      rfl

theorem joinFirst (separator first : List Char) (rest : List (List Char)) :
    joinWith separator (first :: rest) = first ++ rest.flatMap (separator ++ ·) := by
  induction rest generalizing first with
  | nil => exact (List.append_nil first).symm
  | cons next rest ih =>
    rw [joinWith, ih, List.flatMap_cons, List.append_assoc, List.append_assoc]
    exact List.cons_ne_nil next rest

theorem memJoinWith {separator : List Char} {parts : List (List Char)} {c : Char}
    (member : c ∈ joinWith separator parts) : c ∈ separator ∨ ∃ part ∈ parts, c ∈ part := by
  induction parts with
  | nil => simp [joinWith] at member
  | cons part rest ih =>
    cases rest with
    | nil => exact .inr ⟨part, List.mem_cons_self, member⟩
    | cons next others =>
      rw [joinWith] at member
      · rcases List.mem_append.1 member with front | later
        · rcases List.mem_append.1 front with own | between
          · exact .inr ⟨part, List.mem_cons_self, own⟩
          · exact .inl between
        · rcases ih later with between | ⟨found, inside, own⟩
          · exact .inl between
          · exact .inr ⟨found, List.mem_cons_of_mem _ inside, own⟩
      · simp

theorem splitAtPart {separator : Char} {text part : List Char}
    (member : part ∈ splitAt separator text) : separator ∉ part := by
  induction text generalizing part with
  | nil =>
    rw [List.mem_singleton.1 member]
    exact List.not_mem_nil
  | cons c rest ih =>
    rw [splitAt] at member
    split at member
    · rcases List.mem_cons.1 member with rfl | later
      · exact List.not_mem_nil
      · exact ih later
    · rename_i other
      cases cut : splitAt separator rest with
      | nil => exact absurd cut (splitAtNonempty separator rest)
      | cons first parts =>
        rw [cut] at member ih
        rcases List.mem_cons.1 member with rfl | later
        · intro inside
          rcases List.mem_cons.1 inside with same | inside
          · exact other same.symm
          · exact ih List.mem_cons_self inside
        · exact ih (List.mem_cons_of_mem _ later)

theorem splitAtSubset {separator : Char} {text part : List Char}
    (member : part ∈ splitAt separator text) : part ⊆ text := by
  induction text generalizing part with
  | nil =>
    rw [List.mem_singleton.1 member]
    exact List.nil_subset _
  | cons c rest ih =>
    rw [splitAt] at member
    split at member
    · rcases List.mem_cons.1 member with rfl | later
      · exact List.nil_subset _
      · exact List.subset_cons_of_subset c (ih later)
    · cases cut : splitAt separator rest with
      | nil => exact absurd cut (splitAtNonempty separator rest)
      | cons first parts =>
        rw [cut] at member ih
        rcases List.mem_cons.1 member with rfl | later
        · exact List.cons_subset_cons c (ih List.mem_cons_self)
        · exact List.subset_cons_of_subset c (ih (List.mem_cons_of_mem _ later))

theorem splitOnceText {word text before after : List Char}
    (cut : splitOnce word text = some (before, after)) : text = before ++ word ++ after := by
  induction text generalizing before with
  | nil =>
    obtain ⟨rest, found, same⟩ := Option.map_eq_some_iff.1 cut
    obtain ⟨rfl, rfl⟩ := Prod.mk.inj same
    exact (List.append_eq_of_isPrefixOf?_eq_some found).symm
  | cons c rest ih =>
    rw [splitOnce] at cut
    split at cut
    · rename_i found
      obtain ⟨rfl, rfl⟩ := Prod.mk.inj (Option.some.inj cut)
      exact (List.append_eq_of_isPrefixOf?_eq_some found).symm
    · obtain ⟨⟨earlier, later⟩, found, same⟩ := Option.map_eq_some_iff.1 cut
      obtain ⟨rfl, rfl⟩ := Prod.mk.inj same
      rw [ih found]
      rfl

theorem splitOnceSubset {word text before after : List Char}
    (cut : splitOnce word text = some (before, after)) : before ⊆ text ∧ after ⊆ text := by
  rw [splitOnceText cut]
  constructor
  · exact List.Subset.trans (List.subset_append_left before word) (List.subset_append_left _ after)
  · exact List.subset_append_right (before ++ word) after

theorem skipBlanksSubset (text : List Char) : skipBlanks text ⊆ text :=
  (List.dropWhile_suffix isBlank).subset

theorem trimSubset (text : List Char) : trim text ⊆ text := by
  intro c member
  have back := skipBlanksSubset _ (List.mem_reverse.1 member)
  exact skipBlanksSubset text (List.mem_reverse.1 back)

theorem skipBlanksKeeps {text : List Char} {c : Char} (member : c ∈ text)
    (filled : isBlank c = false) : c ∈ skipBlanks text := by
  have parts : text.takeWhile isBlank ++ skipBlanks text = text := List.takeWhile_append_dropWhile
  rw [← parts] at member
  refine (List.mem_append.1 member).resolve_left ?_
  intro front
  have blank := List.mem_takeWhile_imp front
  rw [filled] at blank
  contradiction

theorem trimKeeps {text : List Char} {c : Char} (member : c ∈ text) (filled : isBlank c = false) :
    c ∈ trim text := by
  have front := List.mem_reverse.2 (skipBlanksKeeps member filled)
  exact List.mem_reverse.2 (skipBlanksKeeps front filled)

theorem scanFromPlain {α : Type} {find : Finder α} {skip : Nat} {text : List Char} {c : Char}
    (member : Piece.plain c ∈ scanFrom find skip text) : c ∈ text := by
  induction text generalizing skip with
  | nil => simp [scanFrom] at member
  | cons first rest ih =>
    cases skip with
    | succ skip => exact List.mem_cons_of_mem first (ih member)
    | zero =>
      rw [scanFrom] at member
      split at member
      · rcases List.mem_cons.1 member with same | later
        · rw [Piece.plain.inj same]
          exact List.mem_cons_self
        · exact List.mem_cons_of_mem first (ih later)
      · rcases List.mem_cons.1 member with same | later
        · contradiction
        · exact List.mem_cons_of_mem first (ih later)

theorem memReplaceAll {word replacement text : List Char} {c : Char}
    (member : c ∈ replaceAll word replacement text) : c ∈ text ∨ c ∈ replacement := by
  obtain ⟨piece, found, inside⟩ := List.mem_flatMap.1 member
  cases piece with
  | plain other =>
    rw [List.mem_singleton.1 inside]
    exact .inl (scanFromPlain found)
  | hit value => exact .inr inside

end RequestSuite.Text
