import RequestSuite.Proofs.Collection.Nodes

/-! The outline of a tree: all of it but what its requests ask for. It keeps which nodes are folders
and which are requests, their names and their scripts, so it has the visits of the tree itself, with
the same numbers and directories. -/
namespace RequestSuite.Collection

namespace Item

mutual
def outline : Item → Item
  | .node name items request events =>
    .node name (outlineInside items) (request.map fun _ => .plain) events

def outlineInside : Option (List Item) → Option (List Item)
  | none => none
  | some items => some (outlineForest items)

def outlineForest : List Item → List Item
  | [] => []
  | item :: rest => outline item :: outlineForest rest
end

theorem outlineName (item : Item) : item.outline.name = item.name := by
  obtain ⟨name, items, request, events⟩ := item
  rw [outline]
  rfl

theorem outlineEvents (item : Item) : item.outline.events = item.events := by
  obtain ⟨name, items, request, events⟩ := item
  rw [outline]
  rfl

theorem outlineRequest (item : Item) :
    item.outline.request = item.request.map fun _ => .plain := by
  obtain ⟨name, items, request, events⟩ := item
  rw [outline]
  rfl

theorem outlineFolder (item : Item) : item.outline.isFolder = item.isFolder := by
  obtain ⟨name, items, request, events⟩ := item
  rw [outline]
  cases items <;> rfl

theorem outlineScript (item : Item) (moment : String) :
    item.outline.script? moment = item.script? moment := by
  rw [script?, outlineEvents, script?]

theorem outlineNode (item : Item) :
    item.outline.requestNode? = item.requestNode?.map fun node => (node.1.outline, .plain) := by
  rw [requestNode?, outlineFolder, outlineRequest, requestNode?]
  split
  · rfl
  · rw [Option.map_map, Option.map_map]
    rfl

theorem leafOutline {item other : Item} (alike : item.outline = other.outline)
    (leaf : item.isFolder = false) (request : item.request = other.request) : item = other := by
  have second : other.isFolder = false := by rw [← outlineFolder, ← alike, outlineFolder, leaf]
  have names := congrArg name alike
  have scripts := congrArg events alike
  rw [outlineName, outlineName] at names
  rw [outlineEvents, outlineEvents] at scripts
  obtain ⟨name, items, wanted, events⟩ := item
  obtain ⟨otherName, otherItems, otherWanted, otherEvents⟩ := other
  cases items with
  | some items => contradiction
  | none =>
    cases otherItems with
    | some items => contradiction
    | none =>
      simp only [Item.name, Item.events, Item.request] at names scripts request
      rw [names, scripts, request]

end Item

namespace Visit

def outline (visit : Visit) : Visit := { visit with item := visit.item.outline }

theorem outlineNode (visit : Visit) :
    visit.outline.item.requestNode? =
      visit.item.requestNode?.map fun node => (node.1.outline, .plain) :=
  visit.item.outlineNode

theorem leafOutline {visit other : Visit} (alike : visit.outline = other.outline)
    (leaf : visit.item.isFolder = false) (request : visit.item.request = other.item.request) :
    visit = other := by
  obtain ⟨number, above, item⟩ := visit
  obtain ⟨otherNumber, otherAbove, otherItem⟩ := other
  obtain ⟨numbers, directories, items⟩ := Visit.mk.inj alike
  rw [Visit.mk.injEq]
  exact ⟨numbers, directories, Item.leafOutline items leaf request⟩

mutual
theorem ofItemOutline (above : List String) (number : Nat) :
    (item : Item) → ofItem above number item.outline = (ofItem above number item).map outline
  | .node name items request events => by
    rw [Item.outline, ofItem, ofItem, List.map_cons, ofFolderOutline, outline, Item.outline]

theorem ofFolderOutline (above : List String) (number : Nat) :
    (items : Option (List Item)) →
      ofFolder above number (Item.outlineInside items) = (ofFolder above number items).map outline
  | none => by rw [Item.outlineInside, ofFolder, List.map_nil]
  | some items => by rw [Item.outlineInside, ofFolder, ofFolder, ofItemsOutline]

theorem ofItemsOutline (above : List String) (number : Nat) :
    (items : List Item) →
      ofItems above number (Item.outlineForest items) = (ofItems above number items).map outline
  | [] => by rw [Item.outlineForest, ofItems, List.map_nil]
  | item :: rest => by
    rw [Item.outlineForest, ofItems, ofItems, List.map_append, ofItemOutline, ofItemsOutline,
      List.length_map]
end

end Visit

end RequestSuite.Collection

namespace RequestSuite.Collection
open Collection

def outline (collection : RequestSuite.Collection) : List Item :=
  Item.outlineForest collection.rootItems

theorem visitsOutline (collection : RequestSuite.Collection) :
    collection.visits.map Visit.outline = Visit.ofItems [] 0 collection.outline :=
  (Visit.ofItemsOutline [] 0 collection.rootItems).symm

end RequestSuite.Collection
