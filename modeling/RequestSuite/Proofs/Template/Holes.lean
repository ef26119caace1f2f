import RequestSuite.Proofs.Text.Words
import RequestSuite.Variable.Store

/-! Templates: a row of holes, each behind a text that opens none, and a text behind the last one.
One pass over a template meets these holes and no others, so each becomes the value of its name, or
stays as it is written, and the texts between them stay in any case. -/
namespace RequestSuite.Template
open Text

def opening : List Char := ['{', '{']

def Plain (name : List Char) : Prop := name ≠ [] ∧ ∀ c ∈ name, c ≠ '{' ∧ c ≠ '}' ∧ c ≠ '\n'

instance (name : List Char) : Decidable (Plain name) :=
  @instDecidableAnd _ _ inferInstance (List.decidableBAll _ name)

structure Slot where
  lead : List Char
  name : List Char
  unopened : contains opening lead = false
  shut : lead.getLast? ≠ some '{'
  plain : Plain name

def Slot.text (slot : Slot) : List Char := slot.lead ++ reopen slot.name

def template (slots : List Slot) (tail : List Char) : List Char :=
  slots.flatMap Slot.text ++ tail

def filled (fill : List Char → List Char) (slots : List Slot) (tail : List Char) : List Char :=
  (slots.flatMap fun slot => slot.lead ++ fill slot.name) ++ tail

theorem holeOpens (text : List Char) (absent : opening.isPrefixOf? text = none) :
    hole text = none := by
  unfold hole
  split
  · rename_i c rest
    have opens : opening.isPrefixOf? ('{' :: '{' :: c :: rest) = some (c :: rest) := rfl
    rw [opens] at absent
    contradiction
  · rfl

theorem apartOpening {lead : List Char} (shut : lead.getLast? ≠ some '{') (after : List Char) :
    Apart opening lead after := by
  rintro front back ⟨before, whole⟩ - begun filled split
  obtain ⟨c, front, rfl⟩ := List.exists_cons_of_ne_nil begun
  obtain ⟨rfl, rest⟩ := List.cons.inj split
  rcases List.append_eq_singleton_iff.1 rest.symm with ⟨rfl, -⟩ | ⟨-, none⟩
  · refine shut ?_
    rw [← whole, List.getLast?_concat]
  · exact filled none

theorem beforeCloseName {name : List Char} (closed : ∀ c ∈ name, c ≠ '}' ∧ c ≠ '\n')
    (after : List Char) : beforeClose (name ++ '}' :: '}' :: after) = some (name, after) := by
  induction name with
  | nil => rfl
  | cons c name ih =>
    obtain ⟨⟨brace, feed⟩, later⟩ := List.forall_mem_cons.1 closed
    rw [List.cons_append, beforeClose, if_neg feed, ih later]
    · rfl
    · exact fun _ same => absurd same brace

theorem reopenText (name after : List Char) :
    reopen name ++ after = '{' :: '{' :: (name ++ '}' :: '}' :: after) := by
  simp [reopen]

theorem holeName {name : List Char} (plain : Plain name) (after : List Char) :
    hole ('{' :: '{' :: (name ++ '}' :: '}' :: after)) = some (name, after) := by
  obtain ⟨named, others⟩ := plain
  obtain ⟨c, rest, rfl⟩ := List.exists_cons_of_ne_nil named
  obtain ⟨⟨-, -, feed⟩, later⟩ := List.forall_mem_cons.1 others
  rw [List.cons_append, hole, if_neg feed, beforeCloseName fun x member => (later x member).2]
  rfl

theorem scanSlot (slot : Slot) (after : List Char) :
    scan hole (slot.text ++ after) =
      slot.lead.map Piece.plain ++ .hit slot.name :: scan hole after := by
  have suffix : after <:+ '{' :: (slot.name ++ '}' :: '}' :: after) :=
    ⟨'{' :: slot.name ++ ['}', '}'], by simp⟩
  rw [Slot.text, List.append_assoc, scanOver holeOpens slot.unopened (apartOpening slot.shut _),
    reopenText, scanHit (holeName slot.plain after) suffix]

theorem scanTail {tail : List Char} (unopened : contains opening tail = false) :
    scan hole tail = tail.map Piece.plain := by
  have passed := scanOver holeOpens unopened (apartNothing opening tail)
  rwa [List.append_nil, scanNil, List.append_nil] at passed

theorem renderPlain (fill : List Char → List Char) (text : List Char) :
    (text.map Piece.plain).flatMap (Piece.render fill) = text := by
  rw [List.flatMap_map]
  exact List.flatMap_singleton' text

/- What stands in for a hole is not looked at again. -/
theorem replaceSlots (fill : List Char → List Char) (slots : List Slot) {tail : List Char}
    (unopened : contains opening tail = false) :
    replaceHits hole fill (template slots tail) = filled fill slots tail := by
  induction slots with
  | nil =>
    rw [template, List.flatMap_nil, List.nil_append, replaceHits, scanTail unopened, renderPlain]
    rfl
  | cons slot slots ih =>
    have first : template (slot :: slots) tail = slot.text ++ template slots tail := by
      simp [template]
    rw [replaceHits] at ih ⊢
    rw [first, scanSlot, List.flatMap_append, renderPlain, List.flatMap_cons, ih]
    simp [filled, Piece.render]

end RequestSuite.Template

namespace RequestSuite.Variable.Store
open Template

def shown (store : Store) (name : List Char) : List Char :=
  match store.get? (String.ofList (Text.trim name)) with
  | some value => value.display.toList
  | none => reopen name

theorem fillShown (store : Store) : fill store.text? = store.shown := by
  funext name
  unfold fill shown text?
  cases store.get? (String.ofList (Text.trim name)) <;> rfl

theorem substituteTemplate (store : Store) (slots : List Slot) {tail : List Char}
    (unopened : Text.contains opening tail = false) :
    store.substitute (String.ofList (template slots tail)) =
      String.ofList (filled store.shown slots tail) := by
  rw [substitute, Template.substitute, String.toList_ofList, fillShown, replaceSlots _ _ unopened]

def hostile : Store :=
  ((empty.declare "a" (.text "hidden")).keep "a" (.text "\x7b\x7bb\x7d\x7d")).assign "b"
    (.text "\x7d\x7d$1\n")

def strayBraces : List Slot :=
  [⟨"\x7b \n\x7d\x7d ".toList, " a ".toList, by decide, by decide, by decide⟩,
    ⟨"\x7d".toList, ['b'], by decide, by decide, by decide⟩,
    ⟨[], "c d".toList, by decide, by decide, by decide⟩]

theorem hostileVerbatim :
    hostile.substitute ("\x7b \n\x7d\x7d \x7b\x7b a \x7d\x7d" ++ "\x7d\x7b\x7bb\x7d\x7d" ++
        "\x7b\x7bc d\x7d\x7d" ++ "\x7b") =
      "\x7b \n\x7d\x7d \x7b\x7bb\x7d\x7d" ++ "\x7d\x7d\x7d$1\n" ++
        "\x7b\x7bc d\x7d\x7d" ++ "\x7b" := by
  have unopened : Text.contains opening ['{'] = false := by decide
  have text : String.ofList (template strayBraces ['{']) =
      "\x7b \n\x7d\x7d \x7b\x7b a \x7d\x7d" ++ "\x7d\x7b\x7bb\x7d\x7d" ++
        "\x7b\x7bc d\x7d\x7d" ++ "\x7b" := by decide
  rw [← text, substituteTemplate hostile strayBraces unopened]
  decide

end RequestSuite.Variable.Store
