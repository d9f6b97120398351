import RackInventory.Inventory.Catalog
import RackInventory.Filter.Criteria
import RackInventory.Text.Search

/-!
# Which items the criteria keep

An item must satisfy every dimension that restricts anything: its rack, its type, its category, at
least one of its tags, and its name. The order of the items is kept.
-/

namespace RackInventory

/-- A set that restricts nothing when it is empty. -/
def OrderedSet.admits {α : Type} [LT α] [DecidableEq α] (s : OrderedSet α) (a : α) : Bool :=
  s.isEmpty || a ∈ s

namespace Criteria

/-- Whether an item satisfies one dimension. -/
def admits (c : Criteria) (i : PlacedItem) : Dimension → Bool
  | .racks => c.racks.admits i.rack
  | .equipmentTypes => c.equipmentTypes.admits i.typeId
  | .categories => c.categories.admits i.category
  | .tags => c.tags.isEmpty || i.tags.any (· ∈ c.tags)
  | .equipmentName => c.nameQuery.isEmpty || containsIgnoringCase i.name c.nameQuery

def keeps (c : Criteria) (i : PlacedItem) : Bool := Dimension.all.all (c.admits i)

def select (c : Criteria) (items : List PlacedItem) : List PlacedItem :=
  items.filter c.keeps

def places (c : Criteria) (items : List PlacedItem) : List Nat :=
  (items.zipIdx.filter fun i => c.keeps i.1).map (·.2)

end Criteria

end RackInventory
