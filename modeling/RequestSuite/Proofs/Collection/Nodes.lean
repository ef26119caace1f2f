import RequestSuite.Collection.Visit

/-! The nodes of a tree, each before those below it, without numbers or directories. Taking the
tree in order of visits adds these two to a node and changes nothing in which nodes come when. -/
namespace RequestSuite.Collection

namespace Item

mutual
def subtree : Item → List Item
  | .node name items request events => .node name items request events :: inside items

def inside : Option (List Item) → List Item
  | none => []
  | some items => forest items

def forest : List Item → List Item
  | [] => []
  | item :: rest => subtree item ++ forest rest
end

def requestNode? (item : Item) : Option (Item × Request) :=
  if item.isFolder then none else item.request.map fun request => (item, request)

end Item

namespace Visit

mutual
theorem ofItemItems (above : List String) (number : Nat) :
    (item : Item) → (ofItem above number item).map Visit.item = item.subtree
  | .node name items request events => by
    rw [ofItem, Item.subtree, List.map_cons, ofFolderItems]

theorem ofFolderItems (above : List String) (number : Nat) :
    (items : Option (List Item)) → (ofFolder above number items).map Visit.item = Item.inside items
  | none => by rw [ofFolder, Item.inside, List.map_nil]
  | some items => by rw [ofFolder, Item.inside, ofItemsItems]

theorem ofItemsItems (above : List String) (number : Nat) :
    (items : List Item) → (ofItems above number items).map Visit.item = Item.forest items
  | [] => by rw [ofItems, Item.forest, List.map_nil]
  | item :: rest => by
    rw [ofItems, Item.forest, List.map_append, ofItemItems, ofItemsItems]
end

end Visit

end RequestSuite.Collection

namespace RequestSuite.Collection
open Collection

def nodes (collection : RequestSuite.Collection) : List Item := Item.forest collection.rootItems

def requestNodes (collection : RequestSuite.Collection) : List (Item × Request) :=
  collection.nodes.filterMap Item.requestNode?

theorem visitsItems (collection : RequestSuite.Collection) :
    collection.visits.map Visit.item = collection.nodes :=
  Visit.ofItemsItems [] 0 collection.rootItems

end RequestSuite.Collection
