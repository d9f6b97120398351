import RackInventory.Inventory.Infrastructure

/-!
# The flat list of equipment

A placed item is an item of equipment together with its category and the rack of its layout entry.
The items of an infrastructure come entry by entry, and inside an entry category by category. A
catalog keeps the items of the infrastructure that was loaded last; loading the very same
infrastructure again, told by its identity and not by its content, builds nothing.
-/

namespace RackInventory

/-- An item of equipment with its category and its rack. -/
structure PlacedItem where
  category : EquipmentCategory
  name : String
  rack : String
  type : EquipmentType
  position : Option Position
  tags : List String
deriving DecidableEq

namespace PlacedItem

def ofEquipment (rack : String) (category : EquipmentCategory) (e : Equipment) : PlacedItem :=
  { category, rack, name := e.name, type := e.type, position := e.position, tags := e.tags }

def typeId (i : PlacedItem) : String := i.type.id

end PlacedItem

def RackLayout.items (l : RackLayout) : List PlacedItem :=
  EquipmentCategory.all.flatMap fun c => (l.ofCategory c).map (PlacedItem.ofEquipment l.rack c)

def Infrastructure.items (i : Infrastructure) : List PlacedItem :=
  i.layout.flatMap RackLayout.items

/-- A value with an identity: two loads of equal content are still two loads. -/
structure Loaded (α : Type) where
  identity : Nat
  content : α
deriving DecidableEq

/-- The items of the infrastructure that was loaded last. -/
structure Catalog where
  source : Loaded Infrastructure
  items : List PlacedItem
deriving DecidableEq

namespace Catalog

def ofLoaded (source : Loaded Infrastructure) : Catalog := ⟨source, source.content.items⟩

def isStale (c : Catalog) (source : Loaded Infrastructure) : Bool :=
  c.source.identity != source.identity

def load (c : Catalog) (source : Loaded Infrastructure) : Catalog :=
  if c.isStale source then ofLoaded source else c

end Catalog

end RackInventory
