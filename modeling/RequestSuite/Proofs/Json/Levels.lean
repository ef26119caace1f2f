import RequestSuite.Proofs.Json.Printing

/-! Printed values moved in by one level. All line feeds of a printed value are the printer's own,
since strings and numbers hold no control characters, so a value is printed one level deeper by
putting two more spaces behind every line feed. -/
namespace RequestSuite.Json
open Text Decimal

def deepen (text : List Char) : List Char :=
  text.flatMap fun c => if c = '\n' then ['\n', ' ', ' '] else [c]

theorem deepenAppend (before after : List Char) :
    deepen (before ++ after) = deepen before ++ deepen after := List.flatMap_append

theorem deepenUnbroken {text : List Char} (unbroken : '\n' ∉ text) : deepen text = text := by
  induction text with
  | nil => rfl
  | cons c rest ih =>
    obtain ⟨other, later⟩ := not_or.1 (mt List.mem_cons.2 unbroken)
    rw [deepen, List.flatMap_cons, if_neg (Ne.symm other)]
    exact congrArg (c :: ·) (ih later)

def Inline (text : List Char) : Prop := ∀ c ∈ text, 0x20 ≤ c.toNat

-- The general instance for statements about characters would go through all of them.
instance (text : List Char) : Decidable (Inline text) :=
  List.decidableBAll (fun c : Char => 0x20 ≤ c.toNat) text

structure Deepens (text deeper : List Char) : Prop where
  spread : ∀ c ∈ text, c = '\n' ∨ 0x20 ≤ c.toNat
  moved : deepen text = deeper

namespace Deepens

theorem inline {text : List Char} (inline : Inline text) : Deepens text text := by
  refine ⟨fun c member => .inr (inline c member), deepenUnbroken ?_⟩
  intro member
  exact absurd (inline '\n' member) (by decide)

theorem append {before after front back : List Char} (first : Deepens before front)
    (later : Deepens after back) : Deepens (before ++ after) (front ++ back) := by
  refine ⟨List.forall_mem_append.2 ⟨first.spread, later.spread⟩, ?_⟩
  rw [deepenAppend, first.moved, later.moved]

theorem cons {c : Char} {text deeper : List Char} (printed : 0x20 ≤ c.toNat)
    (later : Deepens text deeper) : Deepens (c :: text) (c :: deeper) :=
  append (inline (List.forall_mem_singleton.2 printed)) later

theorem line (level : Nat) {text deeper : List Char} (later : Deepens text deeper) :
    Deepens (newLine level ++ text) (newLine (level + 1) ++ deeper) := by
  have spaces : Inline (List.replicate (2 * level) ' ') := by
    intro c member
    rw [List.eq_of_mem_replicate member]
    decide
  have gap : Deepens (newLine level) (newLine (level + 1)) := by
    refine ⟨List.forall_mem_cons.2 ⟨.inl rfl, (inline spaces).spread⟩, ?_⟩
    have first : deepen (newLine level) =
        '\n' :: ' ' :: ' ' :: deepen (List.replicate (2 * level) ' ') := rfl
    rw [first, (inline spaces).moved]
    rfl
  exact append gap later

end Deepens

theorem escapeInline (c : Char) : Inline (escape c) := by
  have controls : ∀ n < 0x20, Inline (Quoted.hexUnit n) := by decide
  have marks : Inline simpleEscapes := by decide
  have written := escapeForms c
  generalize escape c = chars at written
  cases written with
  | simple mark known same =>
    exact List.forall_mem_cons.2 ⟨by decide, List.forall_mem_singleton.2 (marks mark known)⟩
  | unit control =>
    exact List.forall_mem_cons.2 ⟨by decide, List.forall_mem_cons.2 ⟨by decide, controls _ control⟩⟩
  | plain printed unquoted unmarked => exact List.forall_mem_singleton.2 printed

theorem quoteInline (text : String) : Inline (quote text) := by
  intro c member
  rcases List.mem_cons.1 member with rfl | member
  · decide
  rcases List.mem_append.1 member with inside | last
  · obtain ⟨d, -, written⟩ := List.mem_flatMap.1 inside
    exact escapeInline d c written
  · rw [List.mem_singleton.1 last]
    decide

theorem numberLetters {n : Number} (lexical : Lexical n) :
    ∀ c ∈ n.text, isAsciiDigit c = true ∨ c ∈ ['-', '+', '.', 'e'] := by
  obtain ⟨formed, spelled⟩ := lexical
  rw [← spelled]
  intro c member
  unfold NumberText.spelled at member
  simp only [List.mem_append] at member
  rcases member with sign | whole | fraction | exponent
  · split at sign
    · rw [List.mem_singleton.1 sign]
      exact .inr (by decide)
    · contradiction
  · exact .inl (formed.whole.digits c whole)
  · cases found : (literal n).fraction with
    | none =>
      rw [found] at fraction
      contradiction
    | some digits =>
      rw [found] at fraction
      rcases List.mem_cons.1 fraction with rfl | inside
      · exact .inr (by decide)
      · exact .inl ((formed.fraction digits found).digits c inside)
  · cases found : (literal n).exponent with
    | none =>
      rw [found] at exponent
      contradiction
    | some mark =>
      rw [found] at exponent
      rcases List.mem_cons.1 exponent with rfl | exponent
      · exact .inr (by decide)
      rcases List.mem_cons.1 exponent with rfl | inside
      · exact .inr (by split <;> decide)
      · exact .inl ((formed.exponent mark found).digits c inside)

theorem numberInline {n : Number} (lexical : Lexical n) : Inline n.text := by
  have signs : Inline ['-', '+', '.', 'e'] := by decide
  intro c member
  rcases numberLetters lexical c member with digit | sign
  · simp only [isAsciiDigit, Bool.and_eq_true, decide_eq_true_eq] at digit
    exact Nat.le_trans (by decide) digit.1
  · exact signs c sign

namespace Value

theorem keyDeepens (level : Nat) (key : String) {text deeper : List Char}
    (later : Deepens text deeper) :
    Deepens (newLine level ++ (quote key ++ ':' :: ' ' :: text))
      (newLine (level + 1) ++ (quote key ++ ':' :: ' ' :: deeper)) :=
  .line level (.append (.inline (quoteInline key)) (.cons (by decide) (.cons (by decide) later)))

mutual
theorem prettyDeepens {value : Value} (lexical : value.IsLexical) (level : Nat) :
    Deepens (value.prettyChars level) (value.prettyChars (level + 1)) := by
  match value with
  | null => exact @Deepens.inline ['n', 'u', 'l', 'l'] (by decide)
  | bool true => exact @Deepens.inline ['t', 'r', 'u', 'e'] (by decide)
  | bool false => exact @Deepens.inline ['f', 'a', 'l', 's', 'e'] (by decide)
  | number n => exact .inline (numberInline lexical)
  | string text => exact .inline (quoteInline text)
  | array [] => exact @Deepens.inline ['[', ']'] (by decide)
  | array (item :: items) =>
    obtain ⟨first, later⟩ := lexical
    simp only [prettyChars, List.append_assoc, List.cons_append]
    exact .cons (by decide) (.line (level + 1) (.append (prettyDeepens first (level + 1))
      (itemsDeepen later level)))
  | object [] => exact @Deepens.inline ['{', '}'] (by decide)
  | object ((key, value) :: members) =>
    obtain ⟨first, later⟩ := lexical
    simp only [prettyChars, List.append_assoc, List.cons_append]
    exact .cons (by decide) (keyDeepens (level + 1) key
      (.append (prettyDeepens first (level + 1)) (membersDeepen later level)))

theorem itemsDeepen {items : List Value} (lexical : ItemsLexical items) (level : Nat) :
    Deepens (prettyItems level items) (prettyItems (level + 1) items) := by
  match items with
  | [] => exact .line level (.inline (by decide))
  | item :: items =>
    obtain ⟨first, later⟩ := lexical
    simp only [prettyItems, List.append_assoc, List.cons_append]
    exact .cons (by decide) (.line (level + 1) (.append (prettyDeepens first (level + 1))
      (itemsDeepen later level)))

theorem membersDeepen {members : List (String × Value)} (lexical : MembersLexical members)
    (level : Nat) : Deepens (prettyMembers level members) (prettyMembers (level + 1) members) := by
  match members with
  | [] => exact .line level (.inline (by decide))
  | (key, value) :: members =>
    obtain ⟨first, later⟩ := lexical
    simp only [prettyMembers, List.append_assoc, List.cons_append]
    exact .cons (by decide) (keyDeepens (level + 1) key
      (.append (prettyDeepens first (level + 1)) (membersDeepen later level)))
end

end Value

end RequestSuite.Json
