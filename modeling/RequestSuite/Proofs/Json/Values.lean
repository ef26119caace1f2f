import RequestSuite.Proofs.Json.Printing

/-! Values read back from their texts. A value that has each key of an object once, whose numbers
come back from their literals and which is not nested too deep is the value of its own tree, and so
of its own text. -/
namespace RequestSuite.Json.Value

mutual
/- What a reader that allows for so many nested containers can give back. -/
def IsReadable : Nat → Value → Prop
  | _, number n => (literal n).number? = some n
  | 0, array _ => False
  | levels + 1, array items => ItemsReadable levels items
  | 0, object _ => False
  | levels + 1, object members =>
    (members.map Prod.fst).Nodup ∧ MembersReadable levels members
  | _, _ => True

def ItemsReadable : Nat → List Value → Prop
  | _, [] => True
  | levels, item :: rest => IsReadable levels item ∧ ItemsReadable levels rest

def MembersReadable : Nat → List (String × Value) → Prop
  | _, [] => True
  | levels, (_, value) :: rest => IsReadable levels value ∧ MembersReadable levels rest
end

theorem putNew {key : String} {members : List (String × Value)}
    (new : key ∉ members.map Prod.fst) (value : Value) :
    put key value members = members ++ [(key, value)] := by
  induction members with
  | nil => rfl
  | cons member rest ih =>
    obtain ⟨other, old⟩ := member
    obtain ⟨different, absent⟩ := not_or.1 (mt List.mem_cons.2 new)
    rw [put, if_neg (Ne.symm different), ih absent]
    rfl

theorem collectRest {before after : List (String × Value)}
    (distinct : ((before ++ after).map Prod.fst).Nodup) :
    after.foldl (fun found (key, value) => put key value found) before = before ++ after := by
  induction after generalizing before with
  | nil => exact (List.append_nil before).symm
  | cons member rest ih =>
    obtain ⟨key, value⟩ := member
    have shifted : before ++ (key, value) :: rest = before ++ [(key, value)] ++ rest := by simp
    have new : key ∉ before.map Prod.fst := by
      rw [List.map_append] at distinct
      intro earlier
      exact (List.nodup_append.1 distinct).2.2 key earlier key List.mem_cons_self rfl
    rw [shifted] at distinct ⊢
    rw [List.foldl_cons]
    dsimp only
    rw [putNew new, ih distinct]

theorem collectDistinct {members : List (String × Value)}
    (distinct : (members.map Prod.fst).Nodup) : collectMembers members = members :=
  collectRest distinct

mutual
theorem treeBack {value : Value} {levels : Nat} (readable : value.IsReadable levels) :
    ofTree? levels value.toTree = some value := by
  match value, levels with
  | null, _ => rfl
  | bool b, _ => rfl
  | number n, _ =>
    have read : (literal n).number? = some n := readable
    simp only [toTree, ofTree?, read, Option.map_some]
  | string text, _ => simp only [toTree, ofTree?, unescapeEscaped, Option.map_some]
  | array items, levels + 1 =>
    simp only [toTree, ofTree?, itemsBack readable, Option.map_some]
  | object members, levels + 1 =>
    obtain ⟨distinct, inside⟩ := readable
    simp only [toTree, ofTree?, membersBack inside, collectDistinct distinct, Option.map_some]

theorem itemsBack {items : List Value} {levels : Nat} (readable : ItemsReadable levels items) :
    ofItems? levels (toItems items) = some items := by
  match items with
  | [] => rfl
  | item :: items =>
    obtain ⟨first, later⟩ := readable
    simp only [toItems, ofItems?, treeBack first, itemsBack later, bind, Option.bind]

theorem membersBack {members : List (String × Value)} {levels : Nat}
    (readable : MembersReadable levels members) :
    ofMembers? levels (toMembers members) = some members := by
  match members with
  | [] => rfl
  | (key, value) :: members =>
    obtain ⟨first, later⟩ := readable
    simp only [toMembers, ofMembers?, unescapeEscaped, treeBack first, membersBack later, bind,
      Option.bind]
end

theorem spaceDelimits {gap : List Char} (space : ∀ c ∈ gap, isSpace c = true) : Delimits gap := by
  cases gap with
  | nil => exact delimitsNil
  | cons c rest =>
    have first := space c List.mem_cons_self
    simp only [isSpace, Bool.or_eq_true, decide_eq_true_eq] at first
    rcases first with ((rfl | rfl) | rfl) | rfl <;>
      exact delimitsCons rfl (by decide) (by decide) rest

theorem printedBack {value : Value} (lexical : value.IsLexical)
    (readable : value.IsReadable maxLevels) (level : Nat) {gap : List Char}
    (space : ∀ c ∈ gap, isSpace c = true) :
    ofText? (String.ofList (value.prettyChars level ++ gap)) = some value := by
  have read := readsPretty lexical level (spaceDelimits space)
  have ends := readsSpaces space []
  rw [List.append_nil] at ends
  have tokens : tokens? (value.prettyChars level ++ gap) = some value.toTree.tokens := by
    have whole := read.trans ends
    rw [Reads, tokens?, Option.map_some, List.append_nil, List.append_nil] at whole
    exact whole
  rw [ofText?, String.toList_ofList, Tree.ofText?, tokens, Option.bind_some, Tree.ofOwnTokens,
    Option.bind_some, treeBack readable]

theorem textBack {value : Value} (lexical : value.IsLexical)
    (readable : value.IsReadable maxLevels) {gap : String}
    (space : ∀ c ∈ gap.toList, isSpace c = true) : ofText? (value.pretty ++ gap) = some value := by
  have whole := printedBack lexical readable 0 space
  rwa [String.ofList_append, String.ofList_toList] at whole

theorem unreadStart {c : Char} {rest : List Char} (visible : isSpace c = false)
    (start : token? (c :: rest) = none) {text : String} (begins : text.toList = c :: rest) :
    ofText? text = none := by
  have stuck : tokens? (c :: rest) = none := by
    rw [tokens?, visible]
    simp only [Bool.false_eq_true, if_false]
    split
    · rfl
    · rename_i found
      cases start.symm.trans found
  rw [ofText?, begins, Tree.ofText?, stuck]
  rfl

end RequestSuite.Json.Value
