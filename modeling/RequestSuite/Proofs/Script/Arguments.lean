import Mathlib.Data.List.Basic
import RequestSuite.Script.Setter

/-! Balanced text of a script: quoted parts that end, and brackets that are paired outside of them.
A reader of arguments stands after such a text as deep as it stood before it, so it stops at the
parenthesis that closes the call, whatever brackets come before it and whatever follows. -/
namespace RequestSuite.Script
open Setter

def brackets : List (Char × Char) := [('(', ')'), ('[', ']'), ('{', '}')]

def isPlain (c : Char) : Bool :=
  !isQuote c && brackets.all fun (first, last) => c != first && c != last

inductive Inside (quote : Char) : List Char → Prop where
  | nil : Inside quote []
  | plain {c rest} (other : c ≠ quote) (bare : c ≠ '\\') (later : Inside quote rest) :
      Inside quote (c :: rest)
  | escaped {c rest} (later : Inside quote rest) : Inside quote ('\\' :: c :: rest)

inductive Balanced : List Char → Prop where
  | nil : Balanced []
  | plain {c rest} (plain : isPlain c = true) (later : Balanced rest) : Balanced (c :: rest)
  | quoted {quote inside rest} (mark : isQuote quote = true) (within : Inside quote inside)
      (later : Balanced rest) : Balanced (quote :: (inside ++ quote :: rest))
  | group {first last inside rest} (pair : (first, last) ∈ brackets) (within : Balanced inside)
      (later : Balanced rest) : Balanced (first :: (inside ++ last :: rest))

theorem balancedPlain {text rest : List Char} (plain : ∀ c ∈ text, isPlain c = true)
    (later : Balanced rest) : Balanced (text ++ rest) := by
  induction text with
  | nil => exact later
  | cons c text ih =>
    obtain ⟨first, others⟩ := List.forall_mem_cons.1 plain
    exact .plain first (ih others)

namespace Setter

def after (text : List Char) (found : Option (List Char × List Char)) :
    Option (List Char × List Char) :=
  found.map fun (before, rest) => (text ++ before, rest)

theorem afterNothing (found : Option (List Char × List Char)) : after [] found = found := by
  cases found <;> rfl

theorem afterAppend (first second : List Char) (found : Option (List Char × List Char)) :
    after first (after second found) = after (first ++ second) found := by
  cases found with
  | none => rfl
  | some parts => simp only [after, Option.map_some, List.append_assoc]

theorem plainParts {c : Char} (plain : isPlain c = true) :
    isQuote c = false ∧ ∀ pair ∈ brackets, c ≠ pair.1 ∧ c ≠ pair.2 := by
  simpa [isPlain] using plain

theorem plainStep {c : Char} (plain : isPlain c = true) (depth : Nat) (rest : List Char) :
    arguments (.code depth) (c :: rest) = after [c] (arguments (.code depth) rest) := by
  obtain ⟨unquoted, other⟩ := plainParts plain
  simp only [brackets, List.forall_mem_cons] at other
  simp [arguments, after, unquoted, other]

theorem quoteStep {quote : Char} (mark : isQuote quote = true) (depth : Nat) (rest : List Char) :
    arguments (.code depth) (quote :: rest) =
      after [quote] (arguments (.quoted depth quote false) rest) := by
  have other : quote ≠ ')' := by
    rintro rfl
    contradiction
  simp [arguments, after, mark, other]

theorem firstStep {first last : Char} (pair : (first, last) ∈ brackets) (depth : Nat)
    (rest : List Char) :
    arguments (.code depth) (first :: rest) = after [first] (arguments (.code (depth + 1)) rest) := by
  simp only [brackets, List.mem_cons, Prod.mk.injEq, List.not_mem_nil, or_false] at pair
  rcases pair with ⟨rfl, rfl⟩ | ⟨rfl, rfl⟩ | ⟨rfl, rfl⟩ <;> rfl

/- Inside of a bracket no parenthesis ends the call. -/
theorem lastStep {first last : Char} (pair : (first, last) ∈ brackets) (depth : Nat)
    (rest : List Char) :
    arguments (.code (depth + 1)) (last :: rest) = after [last] (arguments (.code depth) rest) := by
  simp only [brackets, List.mem_cons, Prod.mk.injEq, List.not_mem_nil, or_false] at pair
  rcases pair with ⟨rfl, rfl⟩ | ⟨rfl, rfl⟩ | ⟨rfl, rfl⟩ <;> rfl

theorem argumentsInside {quote : Char} {inside : List Char} (mark : isQuote quote = true)
    (within : Inside quote inside) (depth : Nat) (rest : List Char) :
    arguments (.quoted depth quote false) (inside ++ quote :: rest) =
      after (inside ++ [quote]) (arguments (.code depth) rest) := by
  induction within with
  | nil =>
    have bare : quote ≠ '\\' := by
      rintro rfl
      contradiction
    simp [arguments, after, bare]
  | plain other bare later ih =>
    rw [List.cons_append, arguments, if_neg Bool.false_ne_true, if_neg bare, if_neg other, ih]
    exact afterAppend [_] _ _
  | escaped later ih =>
    rw [List.cons_append, List.cons_append, arguments, if_neg Bool.false_ne_true, if_pos rfl,
      arguments, if_pos rfl, ih]
    exact (congrArg (after ['\\']) (afterAppend [_] _ _)).trans (afterAppend ['\\'] _ _)

theorem argumentsBalanced {text : List Char} (balanced : Balanced text) (depth : Nat)
    (rest : List Char) :
    arguments (.code depth) (text ++ rest) = after text (arguments (.code depth) rest) := by
  induction balanced generalizing depth rest with
  | nil => exact (afterNothing _).symm
  | plain plain later ih =>
    rw [List.cons_append, plainStep plain, ih, afterAppend]
    rfl
  | quoted mark within later ih =>
    rw [List.cons_append, List.append_assoc, List.cons_append, quoteStep mark,
      argumentsInside mark within, ih, afterAppend, afterAppend]
    simp
  | group pair within later ihWithin ihLater =>
    rw [List.cons_append, List.append_assoc, List.cons_append, firstStep pair, ihWithin,
      lastStep pair, ihLater, afterAppend, afterAppend, afterAppend]
    simp

theorem closingFound {value : List Char} (balanced : Balanced value) (rest : List Char) :
    arguments (.code 0) (value ++ ')' :: rest) = some (value, rest) := by
  have closes : arguments (.code 0) (')' :: rest) = some ([], rest) := rfl
  rw [argumentsBalanced balanced, closes]
  exact congrArg (fun text => some (text, rest)) (List.append_nil value)

end Setter

inductive LastPart : List Char → Prop where
  | plain {c} (plain : isPlain c = true) : LastPart [c]
  | quoted {quote inside} (mark : isQuote quote = true) : LastPart (quote :: (inside ++ [quote]))
  | group {first last inside} (pair : (first, last) ∈ brackets) (within : Balanced inside) :
      LastPart (first :: (inside ++ [last]))

theorem partBefore {part rest : List Char} (here : LastPart part)
    (later : rest = [] ∨ ∃ front last, rest = front ++ last ∧ LastPart last) :
    ∃ front last, part ++ rest = front ++ last ∧ LastPart last := by
  rcases later with rfl | ⟨front, last, rfl, ends⟩
  · exact ⟨[], part, List.append_nil part, here⟩
  · exact ⟨part ++ front, last, (List.append_assoc part front last).symm, ends⟩

theorem balancedLast {text : List Char} (balanced : Balanced text) :
    text = [] ∨ ∃ front last, text = front ++ last ∧ LastPart last := by
  induction balanced with
  | nil => exact .inl rfl
  | plain plain later ih => exact .inr (partBefore (.plain plain) ih)
  | @quoted quote inside rest mark within later ih =>
    have whole := partBefore (@LastPart.quoted quote inside mark) ih
    rw [List.cons_append, List.append_assoc] at whole
    exact .inr whole
  | group pair within later ihWithin ih =>
    have whole := partBefore (.group pair within) ih
    rw [List.cons_append, List.append_assoc] at whole
    exact .inr whole

theorem lastOfPart {front : List Char} {first last : Char} (inside : List Char) :
    (front ++ first :: (inside ++ [last])).getLast? = some last := by
  simp [List.getLast?_append, List.getLast?_cons]

theorem balancedEnd {text : List Char} (balanced : Balanced text) {c : Char}
    (ends : text.getLast? = some c) :
    ∀ pair ∈ brackets, c ≠ pair.1 ∧ (c = pair.2 → pair.1 ∈ text) := by
  rcases balancedLast balanced with rfl | ⟨front, last, rfl, part⟩
  · contradiction
  intro pair known
  cases part with
  | plain plain =>
    rw [List.getLast?_append] at ends
    obtain rfl := Option.some.inj ends
    obtain ⟨first, last⟩ := (Setter.plainParts plain).2 pair known
    exact ⟨first, fun same => absurd same last⟩
  | quoted mark =>
    rw [lastOfPart] at ends
    obtain rfl := Option.some.inj ends
    have unquoted : isQuote pair.1 = false ∧ isQuote pair.2 = false := by
      revert pair
      decide
    constructor
    · rintro rfl
      rw [unquoted.1] at mark
      contradiction
    · rintro rfl
      rw [unquoted.2] at mark
      contradiction
  | @group first last inside pair' within =>
    rw [lastOfPart] at ends
    obtain rfl := Option.some.inj ends
    have kinds : ∀ a ∈ brackets, ∀ b ∈ brackets, a.2 ≠ b.1 ∧ (a.2 = b.2 → a.1 = b.1) := by decide
    obtain ⟨other, same⟩ := kinds _ pair' pair known
    refine ⟨other, fun closes => List.mem_append_right front ?_⟩
    rw [← same closes]
    exact List.mem_cons_self

theorem balancedGroupEnd {text front : List Char} {inner outer : Char × Char}
    (balanced : Balanced text) (known : inner ∈ brackets) (known' : outer ∈ brackets)
    (split : text = front ++ [inner.2] ++ [outer.2]) : inner.1 ∈ text := by
  have ends : text.getLast? = some outer.2 := by rw [split, List.getLast?_concat]
  rcases balancedLast balanced with rfl | ⟨before, last, rfl, part⟩
  · contradiction
  cases part with
  | plain plain =>
    rw [List.getLast?_concat] at ends
    exact absurd (Option.some.inj ends) ((Setter.plainParts plain).2 outer known').2
  | quoted mark =>
    rw [lastOfPart] at ends
    have unquoted : isQuote outer.2 = false := by
      clear split ends
      revert outer
      decide
    rw [Option.some.inj ends, unquoted] at mark
    contradiction
  | @group first last inside pair within =>
    rw [← List.cons_append, ← List.append_assoc] at split
    have shorter := (List.append_inj' split rfl).1
    have inEnd : (before ++ first :: inside).getLast? = some inner.2 := by
      rw [shorter, List.getLast?_concat]
    have inside_ : inside.getLast? = some inner.2 := by
      cases inside with
      | nil =>
        have kinds : ∀ a ∈ brackets, ∀ b ∈ brackets, a.1 ≠ b.2 := by decide
        rw [List.getLast?_concat] at inEnd
        exact absurd (Option.some.inj inEnd) (kinds _ pair inner known)
      | cons c rest =>
        rw [List.getLast?_append_of_ne_nil _ (List.cons_ne_nil _ _), List.getLast?_cons_cons]
          at inEnd
        exact inEnd
    have opened := (balancedEnd within inside_ inner known).2 rfl
    exact List.mem_append_right before (List.mem_cons_of_mem first (List.mem_append_left _ opened))

end RequestSuite.Script
