import RequestSuite.Json.Tree

/-! Trees as rows of tokens. Run from where a value must come, the tokens of a tree close that tree
and leave the containers around it as they were, so a row of tokens belongs to one tree only. -/
namespace RequestSuite.Json.Tree

mutual
def tokens : Tree → List Token
  | .null => [.null]
  | .bool b => [.bool b]
  | .number text => [.number text]
  | .string raw => [.string raw]
  | .array [] => [.openArray, .closeArray]
  | .array (item :: rest) => .openArray :: (tokens item ++ laterItems rest)
  | .object [] => [.openObject, .closeObject]
  | .object ((key, value) :: rest) =>
    .openObject :: .string key :: .colon :: (tokens value ++ laterMembers rest)

def laterItems : List Tree → List Token
  | [] => [.closeArray]
  | item :: rest => .comma :: (tokens item ++ laterItems rest)

def laterMembers : List (List Char × Tree) → List Token
  | [] => [.closeObject]
  | (key, value) :: rest =>
    .comma :: .string key :: .colon :: (tokens value ++ laterMembers rest)
end

theorem runFirst (tree : Tree) (stack : List Frame) (rest : List Token) :
    run (.firstItem stack) (tokens tree ++ rest) =
      run (.value (.items [] :: stack)) (tokens tree ++ rest) := by
  cases tree with
  | array items => cases items <;> rfl
  | object members => cases members <;> rfl
  | _ => rfl

mutual
theorem runTree (tree : Tree) (stack : List Frame) (rest : List Token) :
    run (.value stack) (tokens tree ++ rest) = run (.closed tree stack) rest := by
  match tree with
  | .null => rfl
  | .bool b => rfl
  | .number text => rfl
  | .string raw => rfl
  | .array [] => rfl
  | .array (item :: items) =>
    have opened : run (.value stack) (tokens (.array (item :: items)) ++ rest) =
        run (.firstItem stack) (tokens item ++ (laterItems items ++ rest)) := by
      rw [tokens, List.cons_append, List.append_assoc]
      rfl
    rw [opened, runFirst, runTree item, runItems items]
    rfl
  | .object [] => rfl
  | .object ((key, value) :: members) =>
    have opened : run (.value stack) (tokens (.object ((key, value) :: members)) ++ rest) =
        run (.value (.member [] key :: stack)) (tokens value ++ (laterMembers members ++ rest)) := by
      rw [tokens, List.cons_append, List.cons_append, List.cons_append, List.append_assoc]
      rfl
    rw [opened, runTree value, runMembers members]
    rfl

theorem runItems (items : List Tree) (last : Tree) (before : List Tree) (stack : List Frame)
    (rest : List Token) :
    run (.closed last (.items before :: stack)) (laterItems items ++ rest) =
      run (.closed (.array ((last :: before).reverse ++ items)) stack) rest := by
  match items with
  | [] =>
    rw [List.append_nil]
    rfl
  | item :: items =>
    have next : run (.closed last (.items before :: stack)) (laterItems (item :: items) ++ rest) =
        run (.value (.items (last :: before) :: stack))
          (tokens item ++ (laterItems items ++ rest)) := by
      rw [laterItems, List.cons_append, List.append_assoc]
      rfl
    rw [next, runTree item, runItems items]
    simp

theorem runMembers (members : List (List Char × Tree)) (last : Tree) (key : List Char)
    (before : List (List Char × Tree)) (stack : List Frame) (rest : List Token) :
    run (.closed last (.member before key :: stack)) (laterMembers members ++ rest) =
      run (.closed (.object (((key, last) :: before).reverse ++ members)) stack) rest := by
  match members with
  | [] =>
    rw [List.append_nil]
    rfl
  | (other, value) :: members =>
    have next : run (.closed last (.member before key :: stack))
          (laterMembers ((other, value) :: members) ++ rest) =
        run (.value (.member ((key, last) :: before) other :: stack))
          (tokens value ++ (laterMembers members ++ rest)) := by
      rw [laterMembers, List.cons_append, List.cons_append, List.cons_append, List.append_assoc]
      rfl
    rw [next, runTree value, runMembers members]
    simp
end

theorem ofOwnTokens (tree : Tree) : ofTokens? (tokens tree) = some tree := by
  have closed := runTree tree [] []
  rw [List.append_nil] at closed
  rw [ofTokens?, closed]
  rfl

end RequestSuite.Json.Tree
