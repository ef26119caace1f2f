import RequestSuite.Proofs.Json.Numbers
import RequestSuite.Proofs.Json.Strings
import RequestSuite.Proofs.Json.Trees

/-! Printed values as rows of tokens. White space between the tokens is skipped, and every token ends
before what is printed after it, so the text of a value gives the tokens of its tree, whatever
follows that does not go on with a number. -/
namespace RequestSuite.Json
open Text Decimal

def Reads (text : List Char) (tokens : List Token) (rest : List Char) : Prop :=
  tokens? text = (tokens? rest).map (tokens ++ ·)

theorem Reads.trans {text middle rest : List Char} {first second : List Token}
    (early : Reads text first middle) (late : Reads middle second rest) :
    Reads text (first ++ second) rest := by
  unfold Reads at early late ⊢
  rw [early, late, Option.map_map]
  congr 1
  funext others
  exact (List.append_assoc first second others).symm

theorem tokensSpace {c : Char} (space : isSpace c = true) (rest : List Char) :
    tokens? (c :: rest) = tokens? rest := by
  rw [tokens?, if_pos space]

theorem readsSpaces {gap : List Char} (space : ∀ c ∈ gap, isSpace c = true) (rest : List Char) :
    Reads (gap ++ rest) [] rest := by
  have skipped : tokens? (gap ++ rest) = tokens? rest := by
    induction gap with
    | nil => rfl
    | cons c gap ih =>
      obtain ⟨first, later⟩ := List.forall_mem_cons.1 space
      rw [List.cons_append, tokensSpace first, ih later]
  rw [Reads, skipped]
  exact Option.map_id'.symm

theorem tokenUnspaced {c : Char} {rest after : List Char} {token : Token}
    (found : token? (c :: rest) = some (token, after)) : isSpace c = false := by
  refine Bool.eq_false_iff.2 ?_
  intro space
  simp only [isSpace, Bool.or_eq_true, decide_eq_true_eq] at space
  rcases space with ((rfl | rfl) | rfl) | rfl <;> cases found

theorem readsToken {text after : List Char} {token : Token}
    (found : token? text = some (token, after)) : Reads text [token] after := by
  cases text with
  | nil => cases found
  | cons c rest =>
    rw [Reads, tokens?, if_neg (by simp [tokenUnspaced found])]
    split
    · rename_i none
      cases none.symm.trans found
    · rename_i read
      obtain ⟨rfl, rfl⟩ := Prod.mk.inj (Option.some.inj (read.symm.trans found))
      rfl

theorem readsString (text : String) (rest : List Char) :
    token? (quote text ++ rest) = some (.string (escaped text), rest) := by
  have shape : quote text ++ rest = '"' :: (escaped text ++ '"' :: rest) := by
    simp [quote, escaped]
  rw [shape, token?, bodyEscaped]
  rfl

theorem readsNumber {n : Number} (lexical : Lexical n) {rest : List Char}
    (delimits : Delimits rest) : token? (n.text ++ rest) = some (.number (literal n), rest) := by
  have parts := NumberText.numberBack lexical.formed delimits
  rw [lexical.spelled] at parts
  unfold token?
  -- no other token begins as a number does
  split
  case h_11 => rw [parts, Option.map_some]
  all_goals
    rename_i same
    rw [same] at parts
    cases parts

namespace Token

def chars : Token → List Char
  | openArray => ['[']
  | closeArray => [']']
  | openObject => ['{']
  | closeObject => ['}']
  | colon => [':']
  | comma => [',']
  | null => ['n', 'u', 'l', 'l']
  | bool true => ['t', 'r', 'u', 'e']
  | bool false => ['f', 'a', 'l', 's', 'e']
  | number text => text.spelled
  | string raw => '"' :: raw ++ ['"']

def isSymbol : Token → Bool
  | number _ | string _ => false
  | _ => true

theorem readsSymbol {token : Token} (symbol : token.isSymbol = true) (rest : List Char) :
    token? (token.chars ++ rest) = some (token, rest) := by
  cases token with
  | number text => contradiction
  | string raw => contradiction
  | bool b => cases b <;> rfl
  | _ => rfl

end Token

/- Tokens as a printer writes them one after the other, up to the rest, with characters of one kind
anywhere around them. -/
inductive Laid (Gap : Char → Prop) (rest : List Char) : List Token → List Char → Prop where
  | done : Laid Gap rest [] rest
  | gap {c : Char} {tokens : List Token} {text : List Char} (between : Gap c)
      (later : Laid Gap rest tokens text) : Laid Gap rest tokens (c :: text)
  | symbol (token : Token) {tokens : List Token} {text : List Char}
      (symbol : token.isSymbol = true) (later : Laid Gap rest tokens text) :
      Laid Gap rest (token :: tokens) (token.chars ++ text)
  | number {n : Number} {tokens : List Token} {text : List Char} (lexical : Lexical n)
      (delimits : Delimits text) (later : Laid Gap rest tokens text) :
      Laid Gap rest (.number (literal n) :: tokens) (n.text ++ text)
  | string (value : String) {tokens : List Token} {text : List Char}
      (later : Laid Gap rest tokens text) :
      Laid Gap rest (.string (escaped value) :: tokens) (quote value ++ text)

namespace Laid

variable {Gap : Char → Prop}

theorem trans {text middle rest : List Char} {first second : List Token}
    (early : Laid Gap middle first text) (late : Laid Gap rest second middle) :
    Laid Gap rest (first ++ second) text := by
  induction early with
  | done => exact late
  | gap between later ih => exact .gap between ih
  | symbol token symbol later ih => exact .symbol token symbol ih
  | number lexical delimits later ih => exact .number lexical delimits ih
  | string value later ih => exact .string value ih

theorem gaps {between text rest : List Char} {tokens : List Token}
    (known : ∀ c ∈ between, Gap c) (later : Laid Gap rest tokens text) :
    Laid Gap rest tokens (between ++ text) := by
  induction between with
  | nil => exact later
  | cons c between ih =>
    obtain ⟨first, others⟩ := List.forall_mem_cons.1 known
    exact .gap first (ih others)

theorem reads (skipped : ∀ c, Gap c → isSpace c = true) {text rest : List Char}
    {tokens : List Token} (laid : Laid Gap rest tokens text) : Reads text tokens rest := by
  induction laid with
  | done => exact Option.map_id'.symm
  | gap between later ih =>
    exact (readsSpaces (List.forall_mem_singleton.2 (skipped _ between)) _).trans ih
  | symbol token symbol later ih => exact (readsToken (Token.readsSymbol symbol _)).trans ih
  | number lexical delimits later ih => exact (readsToken (readsNumber lexical delimits)).trans ih
  | string value later ih => exact (readsToken (readsString value _)).trans ih

end Laid

namespace Value

mutual
def toTree : Value → Tree
  | null => .null
  | bool b => .bool b
  | number n => .number (literal n)
  | string text => .string (escaped text)
  | array items => .array (toItems items)
  | object members => .object (toMembers members)

def toItems : List Value → List Tree
  | [] => []
  | item :: rest => toTree item :: toItems rest

def toMembers : List (String × Value) → List (List Char × Tree)
  | [] => []
  | (key, value) :: rest => (escaped key, toTree value) :: toMembers rest
end

mutual
def IsLexical : Value → Prop
  | number n => Lexical n
  | array items => ItemsLexical items
  | object members => MembersLexical members
  | _ => True

def ItemsLexical : List Value → Prop
  | [] => True
  | item :: rest => IsLexical item ∧ ItemsLexical rest

def MembersLexical : List (String × Value) → Prop
  | [] => True
  | (_, value) :: rest => IsLexical value ∧ MembersLexical rest
end

theorem delimitsItems (level : Nat) (items : List Value) (rest : List Char) :
    Delimits (prettyItems level items ++ rest) := by
  cases items <;> exact delimitsCons rfl (by decide) (by decide) _

theorem delimitsMembers (level : Nat) (members : List (String × Value)) (rest : List Char) :
    Delimits (prettyMembers level members ++ rest) := by
  cases members <;> exact delimitsCons rfl (by decide) (by decide) _

theorem laidLine (level : Nat) {text rest : List Char} {tokens : List Token}
    (later : Laid (isSpace · = true) rest tokens text) :
    Laid (isSpace · = true) rest tokens (newLine level ++ text) := by
  refine .gaps (List.forall_mem_cons.2 ⟨rfl, ?_⟩) later
  intro c member
  rw [List.eq_of_mem_replicate member]
  rfl

theorem laidKey (level : Nat) (key : String) {text rest : List Char} {tokens : List Token}
    (later : Laid (isSpace · = true) rest tokens text) :
    Laid (isSpace · = true) rest (.string (escaped key) :: .colon :: tokens)
      (newLine level ++ (quote key ++ ':' :: ' ' :: text)) :=
  laidLine level (.string key (.symbol .colon rfl (.gap rfl later)))

mutual
theorem laidPretty {value : Value} (lexical : value.IsLexical) (level : Nat) {rest : List Char}
    (delimits : Delimits rest) :
    Laid (isSpace · = true) rest value.toTree.tokens (value.prettyChars level ++ rest) := by
  match value with
  | null => exact .symbol .null rfl .done
  | bool true => exact .symbol (.bool true) rfl .done
  | bool false => exact .symbol (.bool false) rfl .done
  | number n => exact .number lexical delimits .done
  | string text => exact .string text .done
  | array [] => exact .symbol .openArray rfl (.symbol .closeArray rfl .done)
  | array (item :: items) =>
    obtain ⟨first, later⟩ := lexical
    have inside := (laidPretty first (level + 1) (delimitsItems level items rest)).trans
      (laidItems later level rest)
    simp only [prettyChars, List.append_assoc, List.cons_append]
    exact .symbol .openArray rfl (laidLine (level + 1) inside)
  | object [] => exact .symbol .openObject rfl (.symbol .closeObject rfl .done)
  | object ((key, value) :: members) =>
    obtain ⟨first, later⟩ := lexical
    have inside := (laidPretty first (level + 1) (delimitsMembers level members rest)).trans
      (laidMembers later level rest)
    simp only [prettyChars, List.append_assoc, List.cons_append]
    exact .symbol .openObject rfl (laidKey (level + 1) key inside)

theorem laidItems {items : List Value} (lexical : ItemsLexical items) (level : Nat)
    (rest : List Char) :
    Laid (isSpace · = true) rest (Tree.laterItems (toItems items))
      (prettyItems level items ++ rest) := by
  match items with
  | [] =>
    simp only [prettyItems, List.append_assoc]
    exact laidLine level (.symbol .closeArray rfl .done)
  | item :: items =>
    obtain ⟨first, later⟩ := lexical
    have inside := (laidPretty first (level + 1) (delimitsItems level items rest)).trans
      (laidItems later level rest)
    simp only [prettyItems, List.append_assoc, List.cons_append]
    exact .symbol .comma rfl (laidLine (level + 1) inside)

theorem laidMembers {members : List (String × Value)} (lexical : MembersLexical members)
    (level : Nat) (rest : List Char) :
    Laid (isSpace · = true) rest (Tree.laterMembers (toMembers members))
      (prettyMembers level members ++ rest) := by
  match members with
  | [] =>
    simp only [prettyMembers, List.append_assoc]
    exact laidLine level (.symbol .closeObject rfl .done)
  | (key, value) :: members =>
    obtain ⟨first, later⟩ := lexical
    have inside := (laidPretty first (level + 1) (delimitsMembers level members rest)).trans
      (laidMembers later level rest)
    simp only [prettyMembers, List.append_assoc, List.cons_append]
    exact .symbol .comma rfl (laidKey (level + 1) key inside)
end

theorem readsPretty {value : Value} (lexical : value.IsLexical) (level : Nat) {rest : List Char}
    (delimits : Delimits rest) :
    Reads (value.prettyChars level ++ rest) value.toTree.tokens rest :=
  (laidPretty lexical level delimits).reads fun _ space => space

end Value

end RequestSuite.Json
