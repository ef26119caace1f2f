import RequestSuite.Proofs.Json.NumberForms

/-! One value in both of its printed forms. They are made of the same tokens, character by
character, and only white space between the tokens of the longer form tells them apart. -/
namespace RequestSuite.Json
open Decimal

namespace Value

theorem delimitsCompactItems (items : List Value) (rest : List Char) :
    Delimits (compactItems items ++ rest) := by
  cases items <;> exact delimitsCons rfl (by decide) (by decide) _

theorem delimitsCompactMembers (members : List (String × Value)) (rest : List Char) :
    Delimits (compactMembers members ++ rest) := by
  cases members <;> exact delimitsCons rfl (by decide) (by decide) _

mutual
theorem laidCompact (value : Value) {rest : List Char} (delimits : Delimits rest) :
    Laid (fun _ => False) rest value.toTree.tokens (value.compactChars ++ rest) := by
  match value with
  | null => exact .symbol .null rfl .done
  | bool true => exact .symbol (.bool true) rfl .done
  | bool false => exact .symbol (.bool false) rfl .done
  | number n => exact .number (numberLexical n) delimits .done
  | string text => exact .string text .done
  | array [] => exact .symbol .openArray rfl (.symbol .closeArray rfl .done)
  | array (item :: items) =>
    have inside := (laidCompact item (delimitsCompactItems items rest)).trans
      (laidCompactItems items rest)
    simp only [compactChars, List.append_assoc, List.cons_append]
    exact .symbol .openArray rfl inside
  | object [] => exact .symbol .openObject rfl (.symbol .closeObject rfl .done)
  | object ((key, value) :: members) =>
    have inside := (laidCompact value (delimitsCompactMembers members rest)).trans
      (laidCompactMembers members rest)
    simp only [compactChars, List.append_assoc, List.cons_append]
    exact .symbol .openObject rfl (.string key (.symbol .colon rfl inside))

theorem laidCompactItems (items : List Value) (rest : List Char) :
    Laid (fun _ => False) rest (Tree.laterItems (toItems items)) (compactItems items ++ rest) := by
  match items with
  | [] => exact .symbol .closeArray rfl .done
  | item :: items =>
    have inside := (laidCompact item (delimitsCompactItems items rest)).trans
      (laidCompactItems items rest)
    simp only [compactItems, List.append_assoc, List.cons_append]
    exact .symbol .comma rfl inside

theorem laidCompactMembers (members : List (String × Value)) (rest : List Char) :
    Laid (fun _ => False) rest (Tree.laterMembers (toMembers members))
      (compactMembers members ++ rest) := by
  match members with
  | [] => exact .symbol .closeObject rfl .done
  | (key, value) :: members =>
    have inside := (laidCompact value (delimitsCompactMembers members rest)).trans
      (laidCompactMembers members rest)
    simp only [compactMembers, List.append_assoc, List.cons_append]
    exact .symbol .comma rfl (.string key (.symbol .colon rfl inside))
end

end Value

def Spaced (Gap : Char → Prop) (tokens : List Token) (text : List Char) : Prop :=
  ∃ row : List (Token × List Char), row.map Prod.fst = tokens ∧
    (∀ part ∈ row, ∀ c ∈ part.2, Gap c) ∧
    text = row.flatMap fun (token, behind) => token.chars ++ behind

variable {Gap : Char → Prop}

theorem Spaced.token {tokens : List Token} {text gap : List Char} (spaced : Spaced Gap tokens text)
    (token : Token) (known : ∀ c ∈ gap, Gap c) :
    Spaced Gap (token :: tokens) (token.chars ++ (gap ++ text)) := by
  obtain ⟨row, rfl, gaps, rfl⟩ := spaced
  refine ⟨(token, gap) :: row, rfl, List.forall_mem_cons.2 ⟨known, gaps⟩, ?_⟩
  rw [List.flatMap_cons, List.append_assoc]

namespace Laid

theorem tight {text rest : List Char} {tokens : List Token}
    (laid : Laid (fun _ => False) rest tokens text) :
    text = tokens.flatMap Token.chars ++ rest := by
  induction laid with
  | done => rfl
  | gap between later ih => exact between.elim
  | symbol token symbol later ih => rw [ih, List.flatMap_cons, List.append_assoc]
  | number lexical delimits later ih =>
    rw [ih, List.flatMap_cons, List.append_assoc, Token.chars, lexical.spelled]
  | string value later ih => rw [ih, List.flatMap_cons, List.append_assoc]; rfl

theorem spaced {text : List Char} {tokens : List Token} (laid : Laid Gap [] tokens text) :
    ∃ front behind, text = front ++ behind ∧ (∀ c ∈ front, Gap c) ∧ Spaced Gap tokens behind := by
  induction laid with
  | done => exact ⟨[], [], rfl, nofun, [], rfl, nofun, rfl⟩
  | @gap c _ _ between later ih =>
    obtain ⟨front, behind, rfl, known, spaced⟩ := ih
    exact ⟨c :: front, behind, rfl, List.forall_mem_cons.2 ⟨between, known⟩, spaced⟩
  | symbol token symbol later ih =>
    obtain ⟨front, behind, rfl, known, spaced⟩ := ih
    exact ⟨[], _, rfl, nofun, spaced.token token known⟩
  | @number n _ _ lexical delimits later ih =>
    obtain ⟨front, behind, rfl, known, spaced⟩ := ih
    rw [← lexical.spelled]
    exact ⟨[], _, rfl, nofun, spaced.token (.number (literal n)) known⟩
  | string value later ih =>
    obtain ⟨front, behind, rfl, known, spaced⟩ := ih
    exact ⟨[], _, rfl, nofun, spaced.token (.string (escaped value)) known⟩

theorem quoted {text rest : List Char} {tokens : List Token} (laid : Laid Gap rest tokens text)
    {raw : List Char} (member : .string raw ∈ tokens) :
    ∃ value, Token.chars (.string raw) = quote value := by
  induction laid with
  | done => contradiction
  | gap between later ih => exact ih member
  | symbol token symbol later ih =>
    rcases List.mem_cons.1 member with rfl | behind
    · contradiction
    · exact ih behind
  | number lexical delimits later ih =>
    rcases List.mem_cons.1 member with same | behind
    · contradiction
    · exact ih behind
  | string value later ih =>
    rcases List.mem_cons.1 member with same | behind
    · rw [Token.string.inj same]
      exact ⟨value, rfl⟩
    · exact ih behind

end Laid

namespace Value

theorem compactTokens (value : Value) :
    tokens? value.compactChars = some value.toTree.tokens ∧
      value.compactChars = value.toTree.tokens.flatMap Token.chars := by
  have laid := laidCompact value delimitsNil
  have read := laid.reads fun _ => False.elim
  rw [Reads, tokens?, Option.map_some, List.append_nil, List.append_nil] at read
  have text := laid.tight
  rw [List.append_nil, List.append_nil] at text
  exact ⟨read, text⟩

/- The text of an object begins with its brace, so there is no gap in front of its tokens. -/
theorem objectSpaced (members : List (String × Value)) (level : Nat) :
    Spaced (isSpace · = true) (object members).toTree.tokens
      ((object members).prettyChars level) := by
  have laid := laidPretty (isLexical (object members)) level delimitsNil
  rw [List.append_nil] at laid
  obtain ⟨front, behind, whole, white, spaced⟩ := laid.spaced
  have opened : ((object members).prettyChars level).head? = some '{' := by cases members <;> rfl
  rw [whole] at opened ⊢
  cases front with
  | nil => exact spaced
  | cons c front =>
    have brace : c = '{' := Option.some.inj opened
    have space := white c List.mem_cons_self
    rw [brace] at space
    contradiction

theorem stringsQuoted (value : Value) {raw : List Char}
    (member : .string raw ∈ value.toTree.tokens) : ∃ text, Token.chars (.string raw) = quote text :=
  (laidCompact value delimitsNil).quoted member

end Value

end RequestSuite.Json
