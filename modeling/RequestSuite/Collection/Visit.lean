import RequestSuite.Collection.Basic
import RequestSuite.Text.Stem

/-! The nodes of a tree in the order in which they are taken, a folder before what it holds. All
nodes are numbered from zero in this order, and the numbers open the names of files and
directories. -/
namespace RequestSuite.Collection

structure Visit where
  number : Nat
  above : List String
  item : Item
  deriving Repr, BEq

namespace Visit

def stem (visit : Visit) : String := Text.Stem.numbered visit.number visit.item.name

def depth (visit : Visit) : Nat := visit.above.length

mutual
def ofItem (above : List String) (number : Nat) : Item → List Visit
  | .node name items request events =>
    ⟨number, above, .node name items request events⟩ ::
      ofFolder (above ++ [Text.Stem.numbered number name]) (number + 1) items

def ofFolder (above : List String) (number : Nat) : Option (List Item) → List Visit
  | none => []
  | some items => ofItems above number items

def ofItems (above : List String) (number : Nat) : List Item → List Visit
  | [] => []
  | item :: rest =>
    let first := ofItem above number item
    first ++ ofItems above (number + first.length) rest
end

end Visit

end RequestSuite.Collection

def RequestSuite.Collection.visits (collection : RequestSuite.Collection) :
    List RequestSuite.Collection.Visit :=
  RequestSuite.Collection.Visit.ofItems [] 0 collection.rootItems
