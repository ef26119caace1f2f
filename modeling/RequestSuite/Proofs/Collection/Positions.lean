import RequestSuite.Proofs.Collection.Nodes
import RequestSuite.Proofs.Files.Places

/-! Positions of nodes in the order of visits. The tree of a node takes up as many positions as it
has nodes, from the node's own on, so the nodes above a position are those before it whose trees
reach beyond it. A visit carries its position as its number and the names of exactly these nodes as
its directories. -/
namespace RequestSuite.Collection
open Files

namespace Item

/- The tree of a node is one stretch of the row of nodes and begins at the node's position. -/
def Stretch (nodes : List Item) (first : Nat) (placed : Item × Nat) : Prop :=
  ∃ before after, nodes = before ++ placed.1.subtree ++ after ∧ placed.2 = first + before.length

theorem Stretch.append {nodes : List Item} {first : Nat} {placed : Item × Nat}
    (stretch : Stretch nodes first placed) (rest : List Item) :
    Stretch (nodes ++ rest) first placed := by
  obtain ⟨before, after, rfl, position⟩ := stretch
  exact ⟨before, after ++ rest, by simp only [List.append_assoc], position⟩

theorem Stretch.after {nodes : List Item} {first : Nat} {placed : Item × Nat} (front : List Item)
    (stretch : Stretch nodes (first + front.length) placed) :
    Stretch (front ++ nodes) first placed := by
  obtain ⟨before, after, rfl, position⟩ := stretch
  refine ⟨front ++ before, after, by simp only [List.append_assoc], ?_⟩
  rw [position, List.length_append, Nat.add_assoc]

theorem Stretch.ends {nodes : List Item} {first : Nat} {placed : Item × Nat}
    (stretch : Stretch nodes first placed) :
    placed.2 + placed.1.subtree.length ≤ first + nodes.length := by
  obtain ⟨before, after, rfl, position⟩ := stretch
  simp only [List.length_append]
  omega

theorem subtreeNode (name : String) (items : Option (List Item)) (request : Option Request)
    (events : List Event) :
    subtree (.node name items request events) = .node name items request events :: inside items :=
  by rw [subtree]

mutual
theorem stretchSubtree (first : Nat) :
    (item : Item) → ∀ placed ∈ item.subtree.zipIdx first, Stretch item.subtree first placed
  | .node name items request events, placed, member => by
    rw [subtreeNode, List.zipIdx_cons] at member
    rcases List.mem_cons.1 member with rfl | below
    · exact ⟨[], [], by simp, rfl⟩
    · rw [subtreeNode]
      exact (stretchInside (first + 1) items placed below).after [_]

theorem stretchInside (first : Nat) :
    (items : Option (List Item)) → ∀ placed ∈ (inside items).zipIdx first,
      Stretch (inside items) first placed
  | none, placed, member => by simp [inside] at member
  | some items, placed, member => by
    rw [inside] at member ⊢
    exact stretchForest first items placed member

theorem stretchForest (first : Nat) :
    (items : List Item) → ∀ placed ∈ (forest items).zipIdx first,
      Stretch (forest items) first placed
  | [], placed, member => by simp [forest] at member
  | item :: rest, placed, member => by
    rw [forest, List.zipIdx_append] at member
    rw [forest]
    rcases List.mem_append.1 member with own | later
    · exact (stretchSubtree first item placed own).append (forest rest)
    · exact (stretchForest (first + item.subtree.length) rest placed later).after item.subtree
end

def above (first : Nat) (nodes : List Item) (position : Nat) : List (Item × Nat) :=
  ((nodes.take position).zipIdx first).filter fun placed =>
    first + position < placed.2 + placed.1.subtree.length

theorem aboveFront (first : Nat) {nodes : List Item} (rest : List Item) {position : Nat}
    (inside : position ≤ nodes.length) :
    above first (nodes ++ rest) position = above first nodes position := by
  rw [above, List.take_append_of_le_length inside, above]

theorem aboveRest (first : Nat) {nodes : List Item} (rest : List Item) (position : Nat)
    (closed : ∀ placed ∈ nodes.zipIdx first, Stretch nodes first placed) :
    above first (nodes ++ rest) (nodes.length + position) =
      above (first + nodes.length) rest position := by
  rw [above, List.take_length_add_append, List.zipIdx_append, List.filter_append]
  have none : (nodes.zipIdx first).filter (fun placed =>
      first + (nodes.length + position) < placed.2 + placed.1.subtree.length) = [] := by
    rw [List.filter_eq_nil_iff]
    intro placed member
    have ends := (closed placed member).ends
    simp only [decide_eq_true_eq]
    omega
  rw [none, List.nil_append, above]
  simp only [Nat.add_assoc]

theorem aboveInside (first : Nat) (item : Item) (nodes : List Item) (position : Nat)
    (reaches : position < nodes.length) (size : item.subtree.length = nodes.length + 1) :
    above first (item :: nodes) (position + 1) =
      (item, first) :: above (first + 1) nodes position := by
  rw [above, List.take_succ_cons, List.zipIdx_cons, List.filter_cons_of_pos, above]
  · simp only [Nat.add_assoc, Nat.add_comm 1]
  · simp only [decide_eq_true_eq, size]
    omega

def directories (first : Nat) (nodes : List Item) (position : Nat) : List String :=
  (above first nodes position).map fun placed => Text.Stem.numbered placed.2 placed.1.name

end Item

namespace Visit
open Item

mutual
theorem ofItemAt (directory : List String) (number : Nat) :
    (item : Item) → (position : Nat) → (ofItem directory number item)[position]? =
      item.subtree[position]?.map fun found =>
        ⟨number + position, directory ++ directories number item.subtree position, found⟩
  | .node name items request events, 0 => by
    rw [ofItem, subtreeNode]
    simp [directories, Item.above]
  | .node name items request events, position + 1 => by
    rw [ofItem, subtreeNode, List.getElem?_cons_succ, List.getElem?_cons_succ, ofFolderAt]
    cases found : (inside items)[position]? with
    | none => rfl
    | some item =>
      obtain ⟨reaches, -⟩ := List.getElem?_eq_some_iff.1 found
      have size :
          (subtree (.node name items request events)).length = (inside items).length + 1 := by
        rw [subtreeNode, List.length_cons]
      rw [directories, directories, aboveInside number _ _ position reaches size]
      simp [Item.name, Nat.add_assoc, Nat.add_comm 1]

theorem ofFolderAt (directory : List String) (number : Nat) :
    (items : Option (List Item)) → (position : Nat) →
      (ofFolder directory number items)[position]? = (inside items)[position]?.map fun found =>
        ⟨number + position, directory ++ directories number (inside items) position, found⟩
  | none, position => by
    rw [ofFolder, inside]
    rfl
  | some items, position => by
    rw [ofFolder, inside]
    exact ofItemsAt directory number items position

theorem ofItemsAt (directory : List String) (number : Nat) :
    (items : List Item) → (position : Nat) →
      (ofItems directory number items)[position]? = (forest items)[position]?.map fun found =>
        ⟨number + position, directory ++ directories number (forest items) position, found⟩
  | [], position => by
    rw [ofItems, forest]
    rfl
  | item :: rest, position => by
    have size : (ofItem directory number item).length = item.subtree.length := by
      rw [← ofItemItems directory number item, List.length_map]
    rw [ofItems, forest]
    by_cases own : position < item.subtree.length
    · rw [List.getElem?_append_left (size ▸ own), List.getElem?_append_left own,
        ofItemAt directory number item position]
      simp only [directories, aboveFront number (forest rest) (Nat.le_of_lt own)]
    · obtain ⟨later, rfl⟩ := Nat.exists_eq_add_of_le (Nat.le_of_not_lt own)
      rw [List.getElem?_append_right (size ▸ Nat.le_add_right _ _),
        List.getElem?_append_right (Nat.le_add_right _ _), size, Nat.add_sub_cancel_left,
        ofItemsAt directory (number + item.subtree.length) rest later]
      simp only [directories,
        aboveRest number (forest rest) later (stretchSubtree number item), Nat.add_assoc]
end

def opens (visit : Visit) : List (List String) :=
  if visit.item.isFolder then [visit.above ++ [visit.stem]] else []

mutual
theorem openedItem {directory : List String} {dirs : List (List String)} (number : Nat)
    (there : directory ∈ dirs) :
    (item : Item) → Opened Visit.above opens dirs (ofItem directory number item)
  | .node name items request events => by
    rw [ofItem]
    refine .cons there ?_
    cases items with
    | none =>
      rw [ofFolder]
      exact .nil
    | some items =>
      rw [ofFolder]
      exact openedItems (number + 1) (List.mem_append_left _ (List.mem_singleton_self _)) items

theorem openedItems {directory : List String} {dirs : List (List String)} (number : Nat)
    (there : directory ∈ dirs) :
    (items : List Item) → Opened Visit.above opens dirs (ofItems directory number items)
  | [] => by
    rw [ofItems]
    exact .nil
  | item :: rest => by
    rw [ofItems]
    exact (openedItem number there item).append (openedItems _ there rest)
end

end Visit

end RequestSuite.Collection

namespace RequestSuite.Collection
open Collection

def directories (collection : RequestSuite.Collection) (position : Nat) : List String :=
  Item.directories 0 collection.nodes position

theorem visitAt (collection : RequestSuite.Collection) (position : Nat) :
    collection.visits[position]? = collection.nodes[position]?.map fun item =>
      ⟨position, collection.directories position, item⟩ := by
  rw [visits, Visit.ofItemsAt, nodes]
  simp only [Nat.zero_add, List.nil_append]
  rfl

theorem visitNumber (collection : RequestSuite.Collection) {position : Nat} {visit : Visit}
    (found : collection.visits[position]? = some visit) : position = visit.number := by
  rw [visitAt] at found
  obtain ⟨item, -, rfl⟩ := Option.map_eq_some_iff.1 found
  rfl

theorem visitsPlaced (collection : RequestSuite.Collection) :
    collection.visits = collection.nodes.zipIdx.map fun placed =>
      ⟨placed.2, collection.directories placed.2, placed.1⟩ := by
  apply List.ext_getElem?
  intro position
  rw [visitAt, List.getElem?_map, List.getElem?_zipIdx, Nat.zero_add, Option.map_map]
  rfl

theorem visitsNumbers (collection : RequestSuite.Collection) :
    collection.visits.map Visit.number = List.range collection.nodes.length := by
  rw [visitsPlaced, List.map_map, List.range_eq_range', ← List.zipIdx_map_snd]
  rfl

theorem visitsOpened (collection : RequestSuite.Collection) :
    Files.Opened Visit.above Visit.opens [[]] collection.visits :=
  Visit.openedItems 0 (List.mem_singleton_self _) collection.rootItems

theorem visitsAbove (collection : RequestSuite.Collection) {visit : Visit}
    (member : visit ∈ collection.visits) :
    ∀ name ∈ visit.above, ∃ number title, name = Text.Stem.numbered number title := by
  rw [visitsPlaced] at member
  obtain ⟨placed, -, rfl⟩ := List.mem_map.1 member
  intro name inside
  obtain ⟨folder, -, rfl⟩ := List.mem_map.1 inside
  exact ⟨folder.2, folder.1.name, rfl⟩

end RequestSuite.Collection
