import RackInventory.Console.Table
import RackInventory.View.Basic
import RackInventory.View.Listing

/-!
# What the console shows

Each page is a line that counts, and a table. The page of an infrastructure has a block for each
rack: a line with the rack's name, and the table of its equipment when the rack is expanded.
-/

namespace RackInventory

namespace Page

/-- A counting line and a table. -/
def titled (title : String) (header : List String) (rows : List (List String)) : String :=
  title ++ "\n" ++ (Table.mk header rows).text

def ofDatacenters (all : List Datacenter) : String :=
  titled (countText all.length "datacenter") ["NAME", "ROOMS", "TAGS"]
    (all.map fun d => [d.name, toString d.rooms.length, listText d.tags])

def ofInfrastructures (all : List Infrastructure) : String :=
  if all.isEmpty then ListedKind.infrastructure.prompt ++ ": no match\n"
  else titled (countText all.length "infrastructure") ["NAME", "DESCRIPTION", "TAGS"]
    (all.map fun i => [i.name, i.description.getD "-", listText i.tags])

def ofRooms (datacenter : String) (all : List RoomEntry) : String :=
  titled (datacenter ++ ": " ++ countText all.length "room") ["ROOM", "DIMENSIONS", "RACKS"]
    (all.map fun r => [r.name, floorText r.dimensions, toString r.racks])

def ofRacks (room : String) (all : List RackEntry) : String :=
  titled (room ++ ": " ++ countText all.length "rack") ["RACK", "FILL RATE", "INFRASTRUCTURES"]
    (all.map fun k => [k.name, toString k.fillPercent ++ "%", listText k.infrastructures])

def sectionHead (s : RackSection) : String :=
  (if s.expanded then "▾ " else "▸ ") ++ s.rack ++ " (" ++ toString s.items.length ++ ")\n"

def sectionTable (s : RackSection) : Table where
  header := ["NAME", "CATEGORY", "TYPE", "TAGS"]
  rows := s.items.map fun i => [i.name, i.category.key, i.typeId, listText i.tags]

def sectionBlock (s : RackSection) : String :=
  sectionHead s ++ (if s.expanded then (sectionTable s).text ++ "\n" else "")

/-- The lines before the blocks. -/
def equipmentHead (name : String) (badges : List Badge) (shown : Nat) : String :=
  name ++ ": " ++ countText shown "item" ++ "\n" ++
    (if badges.isEmpty then "" else "filters: " ++ String.intercalate ", " (badges.map (·.text)) ++ "\n")

def ofSections (name : String) (badges : List Badge) (sections : List RackSection) : String :=
  equipmentHead name badges (sections.flatMap (·.items)).length ++
    (if sections.isEmpty then "No equipment matches the current filters.\n"
    else String.join (sections.map sectionBlock))

def ofView (v : ViewState) : String := ofSections v.infrastructure.name v.criteria.badges v.sections

end Page

end RackInventory
