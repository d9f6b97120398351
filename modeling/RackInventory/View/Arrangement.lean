import RackInventory.Inventory.Catalog
import RackInventory.OrderedSet

/-!
# Items arranged by rack

The items that are shown come rack by rack, in the order of the rack names or in its reverse. A rack
that is shown can be collapsed. A rack starts expanded, keeps its state as long as it is shown, and
starts expanded again after it was hidden. An arrangement holds the racks that are known and, among
them, the collapsed ones, so two arrangements that show the same are equal.
-/

namespace RackInventory

inductive RackOrder where
  | ascending
  | descending
deriving DecidableEq, Repr

namespace RackOrder

def reversed : RackOrder → RackOrder
  | .ascending => .descending
  | .descending => .ascending

def key : RackOrder → String
  | .ascending => "Ascending"
  | .descending => "Descending"

def shape : Shape RackOrder :=
  .choice ([.ascending, .descending].map fun o => (o.key, o)) key (by intro o; cases o <;> rfl)

end RackOrder

structure RackSection where
  rack : String
  expanded : Bool
  items : List PlacedItem
deriving DecidableEq

/-- How racks are shown: their order, the racks known, and which of them are collapsed. -/
structure Arrangement where
  order : RackOrder
  known : OrderedSet String
  collapsed : OrderedSet String
  collapsed_known : ∀ rack, rack ∈ collapsed → rack ∈ known
deriving DecidableEq

namespace Arrangement

def initial : Arrangement := ⟨.ascending, .empty, .empty, fun _ h => h⟩

def isExpanded? (a : Arrangement) (rack : String) : Option Bool :=
  if rack ∈ a.known then some (rack ∉ a.collapsed) else none

/-- Expands a known rack that is collapsed, and collapses one that is expanded. -/
def flip (a : Arrangement) (rack : String) : Arrangement :=
  if k : rack ∈ a.known then
    if rack ∈ a.collapsed then
      { a with
        collapsed := a.collapsed.erase rack
        collapsed_known := fun r h => a.collapsed_known r (OrderedSet.mem_erase.1 h).1 }
    else
      { a with
        collapsed := a.collapsed.insert rack
        collapsed_known := fun r h =>
          (OrderedSet.mem_insert.1 h).elim (fun e => e ▸ k) (a.collapsed_known r) }
  else a

def reverse (a : Arrangement) : Arrangement := { a with order := a.order.reversed }

/-- Knows exactly the racks that are shown now. Those that stay keep their state. -/
def showing (a : Arrangement) (racks : List String) : Arrangement where
  order := a.order
  known := .ofList racks
  collapsed := a.collapsed.filter (· ∈ racks)
  collapsed_known := fun r h => by
    have := (List.mem_filter.1 h).2
    exact OrderedSet.mem_ofList.2 (by simpa using this)

/-- The section of a rack. A rack that is not known is expanded. -/
def sectionOf (a : Arrangement) (items : List PlacedItem) (rack : String) : RackSection where
  rack := rack
  expanded := (a.isExpanded? rack).getD true
  items := items.filter (·.rack = rack)

/-- The sections of some items, one for each of their racks, in the order of the arrangement. -/
def sections (a : Arrangement) (items : List PlacedItem) : List RackSection :=
  let ascending := (OrderedSet.ofList (items.map (·.rack))).toList.map (a.sectionOf items)
  match a.order with
  | .ascending => ascending
  | .descending => ascending.reverse

end Arrangement

end RackInventory
