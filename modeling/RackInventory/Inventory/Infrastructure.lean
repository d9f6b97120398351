import RackInventory.Inventory.Category
import RackInventory.Inventory.EquipmentType

/-!
# Infrastructures

An infrastructure is a set of equipment with a purpose, laid out over racks. A layout entry names a
rack and lists what stands there, in four lists by category. Several entries may name the same
rack. The rack that an item names itself has no meaning here.
-/

namespace RackInventory

/-- A place inside a rack. -/
structure Position where
  height : Float
  width : Float
deriving DecidableEq

def Position.shape : Shape Position :=
  .map
    (.record "Position" <|
      .orElse "height" .f64 0 <|
      .orElse "width" .f64 0 .nil)
    (fun (height, width, ()) => { height, width })
    (fun p => (p.height, p.width, ()))
    fun _ => rfl

structure Equipment where
  name : String
  type : EquipmentType
  rack : Option String
  slot : Option UInt32
  position : Option Position
  tags : List String
deriving DecidableEq

def Equipment.shape : Shape Equipment :=
  .map
    (.record "Equipment" <|
      .required "name" .string <|
      .required "type" EquipmentType.shape <|
      .optional "rack" .string <|
      .optional "slot" .u32 <|
      .optional "position" Position.shape <|
      .lenient "tags" .string .nil)
    (fun (name, type, rack, slot, position, tags, ()) => { name, type, rack, slot, position, tags })
    (fun e => (e.name, e.type, e.rack, e.slot, e.position, e.tags, ()))
    fun _ => rfl

structure RackLayout where
  rack : String
  nodes : List Equipment
  network : List Equipment
  storage : List Equipment
  misc : List Equipment
deriving DecidableEq

def RackLayout.shape : Shape RackLayout :=
  .map
    (.record "RackLayout" <|
      .required "rack" .string <|
      .lenient "nodes" Equipment.shape <|
      .lenient "network" Equipment.shape <|
      .lenient "storage" Equipment.shape <|
      .lenient "misc" Equipment.shape .nil)
    (fun (rack, nodes, network, storage, misc, ()) => { rack, nodes, network, storage, misc })
    (fun l => (l.rack, l.nodes, l.network, l.storage, l.misc, ()))
    fun _ => rfl

/-- The list that a layout entry keeps for a category. -/
def RackLayout.ofCategory (l : RackLayout) : EquipmentCategory → List Equipment
  | .node => l.nodes
  | .network => l.network
  | .storage => l.storage
  | .misc => l.misc

structure Infrastructure where
  name : String
  description : Option String
  tags : List String
  layout : List RackLayout
deriving DecidableEq

def Infrastructure.shape : Shape Infrastructure :=
  .map
    (.record "Infrastructure" <|
      .required "name" .string <|
      .optional "description" .string <|
      .lenient "tags" .string <|
      .lenient "layout" RackLayout.shape .nil)
    (fun (name, description, tags, layout, ()) => { name, description, tags, layout })
    (fun i => (i.name, i.description, i.tags, i.layout, ()))
    fun _ => rfl

end RackInventory
