import RequestSuite.Proofs.Template.Refilling

/-! Holes that are hidden by others. A hole begins at the first pair of braces that can open one, so a
brace or an opening pair in front of a hole makes both one hole, of a longer name. Where that name
has no value, the hole inside it stays, whether its own name has a value or not. -/
namespace RequestSuite.Template
open Text

theorem closedHole {inside : List Char} (filled : inside ≠ [])
    (closed : ∀ c ∈ inside, c ≠ '}' ∧ c ≠ '\n') (after : List Char) :
    hole (reopen inside ++ after) = some (inside, after) := by
  obtain ⟨c, rest, rfl⟩ := List.exists_cons_of_ne_nil filled
  obtain ⟨⟨-, feed⟩, later⟩ := List.forall_mem_cons.1 closed
  rw [reopenText, List.cons_append, hole, if_neg feed, beforeCloseName later]
  rfl

theorem endsReopened {name inside : List Char} :
    reopen name <:+ reopen inside ↔
      inside = name ∨ inside = '{' :: name ∨ opening ++ name <:+ inside := by
  rw [reopen, reopen, List.suffix_append_self_iff, List.suffix_cons_iff, List.suffix_cons_iff]
  simp only [List.cons.injEq, true_and, eq_comm, opening, List.cons_append, List.nil_append]

theorem braceClosed {name : List Char} (closed : ∀ c ∈ name, c ≠ '}' ∧ c ≠ '\n') :
    ∀ c ∈ '{' :: name, c ≠ '}' ∧ c ≠ '\n' :=
  List.forall_mem_cons.2 ⟨by decide, closed⟩

section
variable {name : List Char} (plain : Plain name)
include plain

theorem closedBehind {text inside after : List Char}
    (found : beforeClose text = some (inside, after)) (stands : reopen name <:+: text) :
    reopen name <:+: after ∨ reopen name <:+ inside ++ ['}', '}'] := by
  induction text generalizing inside with
  | nil => contradiction
  | cons c rest ih =>
    rcases List.infix_cons_iff.1 stands with ⟨more, here⟩ | later
    · have cut := beforeCloseName (braceClosed (braceClosed plain.closed)) more
      rw [← here, reopenText] at found
      obtain ⟨rfl, -⟩ := Prod.mk.inj (Option.some.inj (found.symm.trans cut))
      exact .inr List.suffix_rfl
    · by_cases apart : c = '}' → rest.head? ≠ some '}'
      · rw [beforeCloseStep apart] at found
        split at found
        · contradiction
        · obtain ⟨⟨front, back⟩, cut, same⟩ := Option.map_eq_some_iff.1 found
          obtain ⟨rfl, rfl⟩ := Prod.mk.inj same
          exact (ih cut later).imp_right fun ends => ends.trans (List.suffix_cons c _)
      · obtain ⟨rfl, next⟩ := Classical.not_imp.1 apart
        obtain ⟨more, rfl⟩ := List.head?_eq_some_iff.1 (not_not.1 next)
        obtain ⟨-, rfl⟩ := Prod.mk.inj (Option.some.inj found)
        refine .inl ((List.infix_cons_iff.1 later).resolve_left ?_)
        rintro ⟨_, here⟩
        exact absurd (List.cons.inj here).1 (by decide)

/- The first three places are looked at one by one: a hole has a character before its closing pair
is looked for. -/
theorem holeHides {text inside after : List Char} (found : hole text = some (inside, after))
    (stands : reopen name <:+: text) :
    reopen name <:+: after ∨ reopen name <:+ reopen inside := by
  have one := braceClosed plain.closed
  have same : ∀ {other more}, hole text = some (other, more) → other = inside :=
    fun cut => (Prod.mk.inj (Option.some.inj (cut.symm.trans found))).1
  obtain ⟨c, rest, front, rfl, rfl, -, cut⟩ := holeShape found
  rcases List.infix_cons_iff.1 stands with ⟨more, here⟩ | stands
  · rw [← same (here ▸ closedHole plain.1 plain.closed more)]
    exact .inr List.suffix_rfl
  rcases List.infix_cons_iff.1 stands with ⟨more, here⟩ | stands
  · have behind : hole ('{' :: '{' :: c :: rest) = some ('{' :: name, more) := by
      rw [← here]
      exact closedHole (List.cons_ne_nil _ _) one more
    rw [← same behind]
    exact .inr (List.suffix_cons _ _)
  rcases List.infix_cons_iff.1 stands with ⟨more, here⟩ | stands
  · have behind : hole ('{' :: '{' :: c :: rest) = some ('{' :: '{' :: name, more) := by
      rw [← here]
      exact closedHole (List.cons_ne_nil _ _) (braceClosed one) more
    rw [← same behind]
    exact .inr ((List.suffix_cons _ _).trans (List.suffix_cons _ _))
  · refine (closedBehind plain cut stands).imp_right fun ends => ends.trans ?_
    exact ⟨['{', '{', c], rfl⟩

/- So a hole that is written in a text stands at the end of one that is met. -/
theorem standsInHit {text : List Char} (stands : reopen name <:+: text) :
    ∃ inside ∈ hits hole text, reopen name <:+ reopen inside := by
  induction text using passInduction holeForward with
  | nil => exact absurd (List.infix_nil.1 stands) (by simp [reopen])
  | miss c rest missed ih =>
    rw [hitsMiss missed]
    rcases List.infix_cons_iff.1 stands with ⟨more, here⟩ | later
    · rw [← here, closedHole plain.1 plain.closed more] at missed
      contradiction
    · exact ih later
  | hit c rest inside after found ih =>
    rw [hitsHit found (holeForward found)]
    rcases holeHides plain found stands with later | ends
    · obtain ⟨other, member, ends⟩ := ih later
      exact ⟨other, List.mem_cons_of_mem inside member, ends⟩
    · exact ⟨inside, List.mem_cons_self, ends⟩

end

theorem hitStands {text inside : List Char} (member : inside ∈ hits hole text) :
    reopen inside <:+: text := by
  induction text using passInduction holeForward with
  | nil => contradiction
  | miss c rest missed ih =>
    rw [hitsMiss missed] at member
    exact (ih member).trans (List.suffix_cons c rest).isInfix
  | hit c rest other after found ih =>
    rw [hitsHit found (holeForward found)] at member
    rw [(holeFound found).1]
    rcases List.mem_cons.1 member with rfl | later
    · exact (List.prefix_append _ after).isInfix
    · exact (ih later).trans (List.suffix_append _ after).isInfix

end RequestSuite.Template

namespace RequestSuite.Variable.Store
open Template

theorem knownLeftBehind (store : Store) (unbraced : store.Unbraced) (text : String)
    {name : List Char} (plain : Plain name)
    (known : (store.get? (String.ofList (Text.trim name))).isSome) :
    reopen name <:+: (store.substitute text).toList ↔
      ∃ inside ∈ Text.hits hole text.toList,
        store.get? (String.ofList (Text.trim inside)) = none ∧
          (inside = '{' :: name ∨ opening ++ name <:+ inside) := by
  have met := hitsFilled unbraced.text text.toList
  have filled : (store.substitute text).toList =
      Text.replaceHits hole (fill store.text?) text.toList := String.toList_ofList
  have left : ∀ inside, inside ∈ Text.hits hole (store.substitute text).toList ↔
      inside ∈ Text.hits hole text.toList ∧
        store.get? (String.ofList (Text.trim inside)) = none := by
    intro inside
    rw [filled, met, List.mem_filter, text?, Option.isNone_map, Option.isNone_iff_eq_none]
  constructor
  · intro stands
    obtain ⟨inside, member, ends⟩ := standsInHit plain stands
    obtain ⟨member, unknown⟩ := (left inside).1 member
    refine ⟨inside, member, unknown, (endsReopened.1 ends).resolve_left ?_⟩
    rintro rfl
    rw [unknown] at known
    exact Bool.false_ne_true known
  · rintro ⟨inside, member, unknown, hidden⟩
    have stands := hitStands ((left inside).2 ⟨member, unknown⟩)
    exact (endsReopened.2 (.inr hidden)).isInfix.trans stands

def keyed : Store := empty.declare "key" (.text "\"id\"")

theorem openPairHides :
    keyed.Unbraced ∧ Plain "key".toList ∧
      (keyed.get? (String.ofList (Text.trim "key".toList))).isSome ∧
      reopen "key".toList <:+: (keyed.substitute "\x7b\x7b \x7b\x7bkey\x7d\x7d").toList := by
  have unbraced : keyed.Unbraced := by decide
  have plain : Plain "key".toList := by decide
  have known : (keyed.get? (String.ofList (Text.trim "key".toList))).isSome := by decide
  have hidden := knownLeftBehind keyed unbraced "\x7b\x7b \x7b\x7bkey\x7d\x7d" plain known
  refine ⟨unbraced, plain, known, hidden.2 ⟨" \x7b\x7bkey".toList, ?_, ?_, ?_⟩⟩
  · decide
  · decide
  · decide

def openedObject : String := "\x7b\x7b\x7bkey\x7d\x7d: 1\x7d"

theorem braceHides :
    (∀ entry ∈ keyed.merged.entries,
        '{' ∉ entry.2.display.toList ∧ '}' ∉ entry.2.display.toList) ∧
      Plain "key".toList ∧ (keyed.get? "key").isSome ∧
      keyed.substitute openedObject = openedObject ∧
      reopen "key".toList <:+: (keyed.substitute openedObject).toList := by
  have stays : keyed.substitute openedObject = openedObject := by decide
  refine ⟨by decide, by decide, by decide, stays, ?_⟩
  rw [stays]
  exact ⟨['{'], ": 1\x7d".toList, by decide⟩

end RequestSuite.Variable.Store
