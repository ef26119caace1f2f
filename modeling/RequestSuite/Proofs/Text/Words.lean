import RequestSuite.Proofs.Text.Cuts

/-! Words in a text that is put together from two parts. Where no occurrence of a word goes over the
seam, the word is found, counted and replaced in the whole as it is in the parts. -/
namespace RequestSuite.Text

def Apart (word before after : List Char) : Prop :=
  ∀ front back, front <:+ before → back <+: after → front ≠ [] → back ≠ [] → word ≠ front ++ back

theorem Apart.shorter {word before after part : List Char} (apart : Apart word before after)
    (suffix : part <:+ before) : Apart word part after :=
  fun front back inside => apart front back (inside.trans suffix)

theorem Apart.rest {word before after : List Char} {c : Char}
    (apart : Apart word (c :: before) after) : Apart word before after :=
  apart.shorter (List.suffix_cons c before)

theorem apartNothing (word before : List Char) : Apart word before [] := by
  rintro front back - inside - filled
  exact absurd (List.prefix_nil.1 inside) filled

/- A character that can only begin a word divides the occurrences before it from those after. -/
theorem apartAt {word : List Char} {c : Char} (absent : c ∉ word.tail) (before after : List Char) :
    Apart word before (c :: after) := by
  rintro front back - inside some filled rfl
  obtain ⟨first, rest, rfl⟩ := List.exists_cons_of_ne_nil filled
  obtain ⟨x, others, rfl⟩ := List.exists_cons_of_ne_nil some
  rw [(List.cons_prefix_cons.1 inside).1] at absent
  simp at absent

theorem apartOther {word after : List Char} (other : ∀ c ∈ after, c ∉ word) (before : List Char) :
    Apart word before after := by
  rintro front back - inside - filled rfl
  obtain ⟨c, rest, rfl⟩ := List.exists_cons_of_ne_nil filled
  exact other c (inside.subset List.mem_cons_self) (List.mem_append_right front List.mem_cons_self)

theorem startApart {word before after : List Char} {c : Char}
    (apart : Apart word (c :: before) after) :
    word.isPrefixOf? (c :: before ++ after) =
      (word.isPrefixOf? (c :: before)).map (· ++ after) := by
  cases own : word.isPrefixOf? (c :: before) with
  | some rest =>
    have whole := List.append_eq_of_isPrefixOf?_eq_some own
    rw [← whole, Option.map_some, List.append_assoc]
    exact List.isPrefixOf?_eq_some_iff_append_eq.2 rfl
  | none =>
    refine Option.eq_none_iff_forall_ne_some.2 ?_
    intro rest found
    have whole := List.append_eq_of_isPrefixOf?_eq_some found
    rcases List.append_eq_append_iff.1 whole with ⟨more, split, -⟩ | ⟨back, split, split'⟩
    · rw [List.isPrefixOf?_eq_some_iff_append_eq.2 split.symm] at own
      contradiction
    · by_cases none : back = []
      · rw [none, List.append_nil] at split
        rw [List.isPrefixOf?_eq_some_iff_append_eq.2 (by rw [split, List.append_nil])] at own
        contradiction
      · exact apart _ back List.suffix_rfl ⟨rest, split'.symm⟩ (List.cons_ne_nil _ _) none split

theorem literalApart {word before after : List Char} {c : Char}
    (apart : Apart word (c :: before) after) :
    literal word (c :: before ++ after) =
      (literal word (c :: before)).map fun (value, rest) => (value, rest ++ after) := by
  rw [literal, startApart apart, literal]
  cases word.isPrefixOf? (c :: before) <;> rfl

/- The induction goes over the characters of the first part; those of a hit are passed over. -/
theorem scanFromApart {word before after : List Char} (apart : Apart word before after)
    {skip : Nat} (inside : skip ≤ before.length) :
    scanFrom (literal word) skip (before ++ after) =
      scanFrom (literal word) skip before ++ scan (literal word) after := by
  induction before generalizing skip with
  | nil =>
    rw [Nat.le_zero.1 inside]
    rfl
  | cons c before ih =>
    cases skip with
    | succ skip => exact ih apart.rest (Nat.le_of_succ_le_succ inside)
    | zero =>
      have here := literalApart apart
      rw [List.cons_append] at here
      rw [List.cons_append, scanFrom, here, scanFrom]
      cases own : literal word (c :: before) with
      | none => exact congrArg (Piece.plain c :: ·) (ih apart.rest (Nat.zero_le _))
      | some found =>
        obtain ⟨value, rest⟩ := found
        have skipped : (before ++ after).length - (rest ++ after).length =
            before.length - rest.length := by
          rw [List.length_append, List.length_append, Nat.add_sub_add_right]
        simp only [Option.map_some, skipped, List.cons_append, List.cons.injEq, true_and]
        exact ih apart.rest (Nat.sub_le _ _)

theorem scanApart {word before after : List Char} (apart : Apart word before after) :
    scan (literal word) (before ++ after) =
      scan (literal word) before ++ scan (literal word) after :=
  scanFromApart apart (Nat.zero_le _)

theorem countApart {word before after : List Char} (apart : Apart word before after) :
    countOccurrences word (before ++ after) =
      countOccurrences word before + countOccurrences word after := by
  simp only [countOccurrences, hits, scanApart apart, List.filterMap_append,
    List.length_append]

theorem replaceApart {word before after : List Char} (apart : Apart word before after)
    (replacement : List Char) :
    replaceAll word replacement (before ++ after) =
      replaceAll word replacement before ++ replaceAll word replacement after := by
  simp only [replaceAll, replaceHits, scanApart apart, List.flatMap_append]

theorem containsCons (word : List Char) (c : Char) (rest : List Char) :
    contains word (c :: rest) = ((word.isPrefixOf? (c :: rest)).isSome || contains word rest) := by
  rw [contains, splitOnce]
  cases word.isPrefixOf? (c :: rest) with
  | some after => rfl
  | none =>
    rw [Option.isSome_map]
    rfl

theorem absentCut {word text : List Char} (absent : contains word text = false) :
    splitOnce word text = none := by
  rwa [contains, Option.isSome_eq_false_iff, Option.isNone_iff_eq_none] at absent

theorem absentCons {word rest : List Char} {c : Char} (absent : contains word (c :: rest) = false) :
    word.isPrefixOf? (c :: rest) = none ∧ contains word rest = false := by
  rwa [containsCons, Bool.or_eq_false_iff, Option.isSome_eq_false_iff,
    Option.isNone_iff_eq_none] at absent

theorem absentStart {word text : List Char} (absent : contains word text = false) :
    word.isPrefixOf? text = none := by
  cases text with
  | nil => exact Option.map_eq_none_iff.1 (absentCut absent)
  | cons c rest => exact (absentCons absent).1

theorem containsApart {word before after : List Char} (filled : word ≠ [])
    (apart : Apart word before after) :
    contains word (before ++ after) = (contains word before || contains word after) := by
  induction before with
  | nil =>
    obtain ⟨first, others, rfl⟩ := List.exists_cons_of_ne_nil filled
    exact (Bool.false_or _).symm
  | cons c before ih =>
    have here := startApart apart
    rw [List.cons_append] at here
    rw [List.cons_append, containsCons, containsCons, here, ih apart.rest, Option.isSome_map,
      Bool.or_assoc]

theorem containsSubset {word text : List Char} (found : contains word text = true) :
    word ⊆ text := by
  obtain ⟨⟨before, after⟩, cut⟩ := Option.isSome_iff_exists.1 found
  rw [splitOnceText cut]
  exact fun c member => List.mem_append_left after (List.mem_append_right before member)

theorem scanOver {α : Type} {find : Finder α} {word : List Char}
    (needs : ∀ text, word.isPrefixOf? text = none → find text = none) {before after : List Char}
    (absent : contains word before = false) (apart : Apart word before after) :
    scan find (before ++ after) = before.map Piece.plain ++ scan find after := by
  induction before with
  | nil => rfl
  | cons c before ih =>
    obtain ⟨start, later⟩ := absentCons absent
    have here := startApart apart
    rw [start, List.cons_append] at here
    rw [List.cons_append, scanMiss (needs _ here), ih later apart.rest]
    rfl

theorem splitOnceStart {word : List Char} (filled : word ≠ []) (rest : List Char) :
    splitOnce word (word ++ rest) = some ([], rest) := by
  obtain ⟨first, others, rfl⟩ := List.exists_cons_of_ne_nil filled
  have found : (first :: others).isPrefixOf? (first :: (others ++ rest)) = some rest :=
    List.isPrefixOf?_eq_some_iff_append_eq.2 rfl
  rw [List.cons_append, splitOnce, found]

theorem containsPart {word : List Char} (filled : word ≠ []) (before after : List Char) :
    contains word (before ++ (word ++ after)) = true := by
  induction before with
  | nil => rw [List.nil_append, contains, splitOnceStart filled]; rfl
  | cons c before ih => rw [List.cons_append, containsCons, ih, Bool.or_true]

theorem containsLonger {part before after text : List Char} (filled : part ≠ [])
    (absent : contains part text = false) : contains (before ++ part ++ after) text = false := by
  refine Bool.eq_false_iff.2 fun found => ?_
  obtain ⟨⟨front, back⟩, cut⟩ := Option.isSome_iff_exists.1 found
  have whole : text = (front ++ before) ++ (part ++ (after ++ back)) := by
    rw [splitOnceText cut]
    simp
  rw [whole, containsPart filled] at absent
  contradiction

theorem splitOnceApart {word before after : List Char} (absent : contains word before = false)
    (apart : Apart word before after) :
    splitOnce word (before ++ after) =
      (splitOnce word after).map fun (front, back) => (before ++ front, back) := by
  induction before with
  | nil => exact (congrFun Option.map_id (splitOnce word after)).symm
  | cons c before ih =>
    obtain ⟨start, later⟩ := absentCons absent
    have here := startApart apart
    rw [start, List.cons_append] at here
    rw [List.cons_append, splitOnce, here, Option.map_none]
    dsimp only
    rw [ih later apart.rest, Option.map_map]
    rfl

theorem literalOther {word : List Char} {c : Char} (other : word.head? ≠ some c)
    (filled : word ≠ []) (rest : List Char) : literal word (c :: rest) = none := by
  obtain ⟨first, others, rfl⟩ := List.exists_cons_of_ne_nil filled
  have different : (first == c) = false := by simpa using other
  rw [literal, List.isPrefixOf?, different]
  rfl

theorem replaceMiss {word rest : List Char} {c : Char} (replacement : List Char)
    (absent : literal word (c :: rest) = none) :
    replaceAll word replacement (c :: rest) = c :: replaceAll word replacement rest := by
  rw [replaceAll, replaceHits, scanMiss absent]
  rfl

theorem replaceHit {word : List Char} (filled : word ≠ []) (replacement after : List Char) :
    replaceAll word replacement (word ++ after) =
      replacement ++ replaceAll word replacement after := by
  obtain ⟨first, others, rfl⟩ := List.exists_cons_of_ne_nil filled
  have found : literal (first :: others) (first :: others ++ after) = some ((), after) := by
    rw [literal, List.isPrefixOf?_eq_some_iff_append_eq.2 rfl]
    rfl
  rw [List.cons_append] at found ⊢
  rw [replaceAll, replaceHits, scanHit found (List.suffix_append others after)]
  rfl

theorem literalText {word text after : List Char} {value : Unit}
    (found : literal word text = some (value, after)) : text = word ++ after := by
  obtain ⟨rest, own, same⟩ := Option.map_eq_some_iff.1 found
  rw [← (Prod.mk.inj same).2]
  exact (List.append_eq_of_isPrefixOf?_eq_some own).symm

theorem replaceNil {word replacement text : List Char} (filled : replacement ≠ [])
    (none : replaceAll word replacement text = []) : text = [] := by
  cases text with
  | nil => rfl
  | cons c rest =>
    rw [replaceAll, replaceHits, scan, scanFrom] at none
    cases found : literal word (c :: rest) with
    | none => simp [found, Piece.render] at none
    | some hit => simp [found, Piece.render, filled] at none

theorem replaceLast {word replacement text : List Char} {c : Char} (filled : word ≠ [])
    (filled' : replacement ≠ []) (ends : replacement.getLast? = some c → word.getLast? = some c)
    (last : (replaceAll word replacement text).getLast? = some c) : text.getLast? = some c := by
  induction size : text.length using Nat.strongRecOn generalizing text with
  | ind n ih =>
    cases text with
    | nil => exact last
    | cons first rest =>
      cases found : literal word (first :: rest) with
      | none =>
        rw [replaceMiss replacement found] at last
        by_cases none : replaceAll word replacement rest = []
        · rw [none] at last
          rw [replaceNil filled' none]
          exact last
        · rw [← List.singleton_append, List.getLast?_append_of_ne_nil _ none] at last
          have later := ih _ (by rw [← size, List.length_cons]; exact Nat.lt_succ_self _) last rfl
          rw [List.getLast?_cons, later]
          rfl
      | some hit =>
        have whole := literalText found
        rw [whole] at last size ⊢
        rw [replaceHit filled] at last
        by_cases none : replaceAll word replacement hit.2 = []
        · rw [none, List.append_nil] at last
          rw [replaceNil filled' none, List.append_nil]
          exact ends last
        · rw [List.getLast?_append_of_ne_nil _ none] at last
          have shorter : hit.2.length < n := by
            have some := List.length_pos_iff.2 filled
            rw [← size, List.length_append]
            omega
          have later := ih _ shorter last rfl
          rw [List.getLast?_append, later]
          rfl

theorem countBreak {word : List Char} {c : Char} (filled : word ≠ []) (absent : c ∉ word)
    (before after : List Char) :
    countOccurrences word (before ++ c :: after) =
      countOccurrences word before + countOccurrences word after := by
  have tail : c ∉ word.tail := fun member => absent (List.mem_of_mem_tail member)
  have first : word.head? ≠ some c := fun same => absent (List.mem_of_head? same)
  rw [countApart (apartAt tail before after)]
  congr 1
  rw [countOccurrences, hits, scanMiss (literalOther first filled after)]
  rfl

theorem countAbsent {word text : List Char} (absent : contains word text = false) :
    countOccurrences word text = 0 := by
  induction text with
  | nil => rfl
  | cons c rest ih =>
    obtain ⟨start, later⟩ := absentCons absent
    have none : literal word (c :: rest) = none := by
      rw [literal, start]
      rfl
    rw [countOccurrences, hits, scanMiss none]
    exact ih later

/- A word whose first character stands nowhere else in it does not overlap itself. -/
theorem countNext {word : List Char} {first : Char} (starts : word.head? = some first)
    (alone : first ∉ word.tail) (c : Char) (rest : List Char) :
    countOccurrences word (c :: rest) =
      (if (word.isPrefixOf? (c :: rest)).isSome then 1 else 0) + countOccurrences word rest := by
  obtain ⟨others, rfl⟩ := List.head?_eq_some_iff.1 starts
  cases found : (first :: others).isPrefixOf? (c :: rest) with
  | none =>
    have missed : literal (first :: others) (c :: rest) = none := by
      rw [literal, found]
      rfl
    rw [countOccurrences, hits, scanMiss missed]
    exact (Nat.zero_add _).symm
  | some after =>
    have whole : first :: (others ++ after) = c :: rest :=
      List.append_eq_of_isPrefixOf?_eq_some found
    obtain ⟨rfl, rfl⟩ := List.cons.inj whole
    have hit : literal (first :: others) (first :: (others ++ after)) = some ((), after) := by
      rw [literal, found]
      rfl
    have apart : Apart (first :: others) others after := by
      rintro front back inside - filled - whole
      obtain ⟨x, front, rfl⟩ := List.exists_cons_of_ne_nil filled
      obtain ⟨rfl, -⟩ := List.cons.inj whole
      exact alone (inside.subset List.mem_cons_self)
    have absent : contains (first :: others) others = false :=
      Bool.eq_false_iff.2 fun found => alone (containsSubset found List.mem_cons_self)
    have here : countOccurrences (first :: others) (first :: (others ++ after)) =
        1 + countOccurrences (first :: others) after := by
      rw [countOccurrences, hits, scanHit hit (List.suffix_append others after), Nat.add_comm]
      rfl
    rw [here, countApart apart, countAbsent absent, Nat.zero_add]
    rfl

end RequestSuite.Text
