import RequestSuite.Proofs.Json.Levels
import RequestSuite.Proofs.Json.NumberForms
import RequestSuite.Proofs.Json.Readable
import RequestSuite.Proofs.Template.Refilling

/-! Printed values among the holes of templates. Two braces never stand side by side in the text of a
value but inside of its strings and keys, since the brace of an object is followed by a line feed or
by its closing one. So a value whose strings and keys open no hole opens none in its text. -/
namespace RequestSuite.Template
open Text Json Decimal

structure Unopened (text : List Char) : Prop where
  absent : contains opening text = false
  shut : text.getLast? ≠ some '{'

def opensNone (text : String) : Bool := !contains opening text.toList

namespace Unopened

theorem unbraced {text : List Char} (unbraced : '{' ∉ text) : Unopened text :=
  ⟨unopenedOf unbraced, fun last => unbraced (List.mem_of_getLast? last)⟩

theorem append {before after : List Char} (first : Unopened before) (later : Unopened after) :
    Unopened (before ++ after) := by
  constructor
  · rw [containsApart (by decide) (apartOpening first.shut after), first.absent, later.absent]
    rfl
  · have ends := later.shut
    rw [List.getLast?_append]
    cases last : after.getLast? with
    | none => exact first.shut
    | some c => rwa [last] at ends

theorem brace {text : List Char} (other : text.head? ≠ some '{') (some : text ≠ [])
    (later : Unopened text) : Unopened ('{' :: text) := by
  obtain ⟨c, rest, rfl⟩ := List.exists_cons_of_ne_nil some
  have different : c ≠ '{' := fun same => other (congrArg _ same)
  constructor
  · have start : opening.isPrefixOf? ('{' :: c :: rest) = none := by
      simp [opening, List.isPrefixOf?, Ne.symm different]
    rw [containsCons, start, later.absent]
    rfl
  · rw [List.getLast?_cons_cons]
    exact later.shut

theorem cons {c : Char} {text : List Char} (other : c ≠ '{') (later : Unopened text) :
    Unopened (c :: text) :=
  append (unbraced (List.mem_singleton.not.2 (Ne.symm other))) later

end Unopened

theorem lineUnbraced (level : Nat) : '{' ∉ newLine level := by
  intro member
  rcases List.mem_cons.1 member with feed | space
  · exact absurd feed (by decide)
  · exact absurd (List.eq_of_mem_replicate space) (by decide)

/- An escape has no brace, and a brace is written as itself. -/
theorem escapeUnbraced {c : Char} (other : c ≠ '{') : '{' ∉ escape c := by
  have written := escapeForms c
  generalize escape c = chars at written
  cases written with
  | simple mark known same =>
    have unmarked : '{' ∉ simpleEscapes := by decide
    have other : '{' ≠ mark := fun same => unmarked (same ▸ known)
    simp [other]
  | unit control =>
    have digits : ∀ n < 0x20, '{' ∉ '\\' :: 'u' :: Quoted.hexUnit n := by decide
    exact digits c.toNat control
  | plain printed unquoted unmarked => simpa using Ne.symm other

theorem escapeFilled (c : Char) : escape c ≠ [] := by
  have written := escapeForms c
  generalize escape c = chars at written
  cases written <;> simp

theorem escapedAbsent {text : List Char} (absent : contains opening text = false) :
    contains opening (text.flatMap escape) = false := by
  induction text with
  | nil => rfl
  | cons c rest ih =>
    obtain ⟨start, later⟩ := absentCons absent
    rw [List.flatMap_cons]
    by_cases brace : c = '{'
    · subst brace
      have one : escape '{' = ['{'] := by decide
      have next : opening.isPrefixOf? ('{' :: rest.flatMap escape) = none := by
        cases rest with
        | nil => rfl
        | cons d rest =>
          have other : d ≠ '{' := by
            rintro rfl
            simp [opening, List.isPrefixOf?] at start
          obtain ⟨e, chars, split⟩ := List.exists_cons_of_ne_nil (escapeFilled d)
          have different : e ≠ '{' := by
            rintro rfl
            exact escapeUnbraced other (split ▸ List.mem_cons_self)
          rw [List.flatMap_cons, split]
          simp [opening, List.isPrefixOf?, Ne.symm different]
      rw [one, List.singleton_append, containsCons, next, ih later]
      rfl
    · have unbraced := escapeUnbraced brace
      rw [containsApart (by decide) (apartUnbraced unbraced _), unopenedOf unbraced, ih later]
      rfl

theorem quoteUnopened {text : String} (opens : opensNone text = true) : Unopened (quote text) := by
  have absent : contains opening text.toList = false := by simpa [opensNone] using opens
  have ended : Unopened (text.toList.flatMap escape ++ ['"']) := by
    constructor
    · rw [containsApart (by decide) (apartOther (List.forall_mem_singleton.2 (by decide)) _),
        escapedAbsent absent]
      rfl
    · simp
  exact .cons (by decide) ended

theorem numberUnbraced (n : Number) : '{' ∉ n.text := by
  intro member
  rcases numberLetters (numberLexical n) '{' member with digit | sign
  · exact absurd digit (by decide)
  · exact absurd sign (by decide)

theorem lineUnopened (level : Nat) {text : List Char} (later : Unopened text) :
    Unopened (newLine level ++ text) :=
  .append (.unbraced (lineUnbraced level)) later

theorem braceUnopened (level : Nat) {text : List Char} (later : Unopened text) :
    Unopened ('{' :: (newLine level ++ text)) :=
  .brace (by simp [newLine]) (by simp [newLine]) (lineUnopened level later)

section
variable {number : Number → Bool}

mutual
theorem prettyUnopened {value : Value} (opens : value.every number opensNone = true)
    (level : Nat) : Unopened (value.prettyChars level) := by
  match value with
  | .null => exact @Unopened.unbraced ['n', 'u', 'l', 'l'] (by decide)
  | .bool true => exact @Unopened.unbraced ['t', 'r', 'u', 'e'] (by decide)
  | .bool false => exact @Unopened.unbraced ['f', 'a', 'l', 's', 'e'] (by decide)
  | .number n => exact .unbraced (numberUnbraced n)
  | .string text => exact quoteUnopened opens
  | .array [] => exact @Unopened.unbraced ['[', ']'] (by decide)
  | .array (item :: items) =>
    obtain ⟨first, later⟩ := Bool.and_eq_true_iff.1 opens
    simp only [Value.prettyChars, List.append_assoc, List.cons_append]
    exact .cons (by decide) (lineUnopened _ (.append (prettyUnopened first _)
      (itemsUnopened later level)))
  | .object [] => exact @Unopened.mk ['{', '}'] (by decide) (by decide)
  | .object ((key, value) :: members) =>
    obtain ⟨name, inside⟩ := Bool.and_eq_true_iff.1 opens
    obtain ⟨first, later⟩ := Bool.and_eq_true_iff.1 inside
    simp only [Value.prettyChars, List.append_assoc, List.cons_append]
    exact braceUnopened _ (.append (quoteUnopened name) (.cons (by decide) (.cons (by decide)
      (.append (prettyUnopened first _) (membersUnopened later level)))))

theorem itemsUnopened {items : List Value} (opens : Value.everyItem number opensNone items = true)
    (level : Nat) : Unopened (Value.prettyItems level items) := by
  match items with
  | [] => exact lineUnopened level (.unbraced (by decide))
  | item :: items =>
    obtain ⟨first, later⟩ := Bool.and_eq_true_iff.1 opens
    simp only [Value.prettyItems, List.append_assoc, List.cons_append]
    exact .cons (by decide) (lineUnopened _ (.append (prettyUnopened first _)
      (itemsUnopened later level)))

theorem membersUnopened {members : List (String × Value)}
    (opens : Value.everyMember number opensNone members = true) (level : Nat) :
    Unopened (Value.prettyMembers level members) := by
  match members with
  | [] => exact lineUnopened level (.unbraced (by decide))
  | (key, value) :: members =>
    obtain ⟨name, inside⟩ := Bool.and_eq_true_iff.1 opens
    obtain ⟨first, later⟩ := Bool.and_eq_true_iff.1 inside
    simp only [Value.prettyMembers, List.append_assoc, List.cons_append]
    exact .cons (by decide) (lineUnopened _ (.append (quoteUnopened name) (.cons (by decide)
      (.cons (by decide) (.append (prettyUnopened first _) (membersUnopened later level))))))
end

end

end RequestSuite.Template
