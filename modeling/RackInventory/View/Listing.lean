import RackInventory.Inventory.Datacenter
import RackInventory.Inventory.Infrastructure
import RackInventory.OrderedSet
import RackInventory.Text.Search

/-!
# Lists for people

What the pages show that list datacenters, infrastructures, rooms and racks: counts with their
noun, lists in one line, rooms with their floor and number of racks, and the racks of a room with
the infrastructures that have equipment in them. A search text narrows a list by name.
-/

namespace RackInventory

/-- A number and its noun, in the plural unless it is one. -/
def countText (count : Nat) (noun : String) : String :=
  toString count ++ " " ++ noun ++ (if count = 1 then "" else "s")

def listText (items : List String) : String :=
  if items.isEmpty then "-" else String.intercalate ", " items

/-- The floor of a room in metres, or a dash. -/
def floorText : Option Dimensions → String
  | some d => plainNumber (d.width / 1000) ++ "m × " ++ plainNumber (d.depth / 1000) ++ "m"
  | none => "-"

inductive ListedKind where
  | datacenter
  | infrastructure
deriving DecidableEq

namespace ListedKind

def noun : ListedKind → String
  | .datacenter => "datacenter"
  | .infrastructure => "infrastructure"

def prompt : ListedKind → String
  | .datacenter => "Select a datacenter"
  | .infrastructure => "Select an infrastructure"

/-- A number of things of this kind. -/
def countText (kind : ListedKind) (count : Nat) : String := RackInventory.countText count kind.noun

end ListedKind

def matchingNames (names : List String) (query : String) : List String :=
  names.filter (containsIgnoringCase · query)

structure StartPage where
  datacenters : List String
  infrastructures : List String
deriving DecidableEq

namespace StartPage

def ofInventory (datacenters : List Datacenter) (infrastructures : List Infrastructure) : StartPage :=
  ⟨datacenters.map (·.name), infrastructures.map (·.name)⟩

def datacenterCount (o : StartPage) : String := ListedKind.datacenter.countText o.datacenters.length

def infrastructureCount (o : StartPage) : String :=
  ListedKind.infrastructure.countText o.infrastructures.length

end StartPage

/-- A room in a list of rooms. The total is the number of racks that the rows state, in 32 bits. -/
structure RoomEntry where
  name : String
  dimensions : Option Dimensions
  total : UInt32
deriving DecidableEq

def RoomEntry.racks (e : RoomEntry) : Nat := e.total.toNat

/-- What a room shows. A sum that needs more than 32 bits wraps around. -/
def Room.entry (r : Room) : RoomEntry where
  name := r.name
  dimensions := r.dimensions
  total := r.rows.foldl (fun n row => n + row.stated) 0

/-- The sum of two numbers, if it fits in 32 bits. -/
def checkedAdd (m n : UInt32) : Option UInt32 :=
  if m.toNat + n.toNat < UInt32.size then some (m + n) else none

/-- The total as a build has it that checks its sums, and stops where one does not fit. -/
def Room.checkedTotal (r : Room) : Option UInt32 :=
  r.rows.foldlM (fun n row => checkedAdd n row.stated) 0

def Datacenter.roomEntries (d : Datacenter) (query : String) : List RoomEntry :=
  (d.rooms.filter fun r => containsIgnoringCase r.name query).map Room.entry

structure RackEntry where
  name : String
  fillPercent : Nat
  infrastructures : List String
deriving DecidableEq

/-- A share as a whole number of percent, at least zero. -/
def percent (share : Float) : Nat :=
  let x := (share * 100).round
  if 0 < x then x.toUInt32.toNat else 0

/-- Whether an infrastructure has a layout entry for a rack. -/
def Infrastructure.occupies (i : Infrastructure) (rack : String) : Bool :=
  i.layout.any (·.rack = rack)

/-- The names of the infrastructures in a rack, in ascending order, each once. -/
def occupants (infrastructures : List Infrastructure) (rack : String) : List String :=
  (OrderedSet.ofList ((infrastructures.filter (·.occupies rack)).map (·.name))).toList

def Room.racks (r : Room) : List RoomRack := r.rows.flatMap (·.racks)

/-- The racks of a room that a search text leaves, with who is in them. -/
def Room.rackEntries (r : Room) (infrastructures : List Infrastructure) (query : String) :
    List RackEntry :=
  (r.racks.filter fun k => containsIgnoringCase k.name query).map fun k =>
    { name := k.name
      fillPercent := percent k.fillrate
      infrastructures := occupants infrastructures k.name }

end RackInventory
