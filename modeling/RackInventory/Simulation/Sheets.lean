import RackInventory.Simulation.Drafts

/-!
# Documents written entry by entry

A sheet is a document that is being written. An item of equipment goes to the end of the list of its
category, and a rack or a room goes behind those before it. What is entered under a name replaces
what was entered there before.
-/

namespace RackInventory

structure RackSheet where
  rack : String
  nodes : List Json
  network : List Json
  storage : List Json
  misc : List Json

namespace RackSheet

def blank (rack : String) : RackSheet := ⟨rack, [], [], [], []⟩

def enter (s : RackSheet) (e : EquipmentDraft) : RackSheet :=
  let item := e.document s.rack
  match e.category with
  | .node => { s with nodes := s.nodes ++ [item] }
  | .network => { s with network := s.network ++ [item] }
  | .storage => { s with storage := s.storage ++ [item] }
  | .misc => { s with misc := s.misc ++ [item] }

def document (s : RackSheet) : Json :=
  .object [("misc", .array s.misc), ("network", .array s.network), ("nodes", .array s.nodes),
    ("rack", .string s.rack), ("storage", .array s.storage)]

end RackSheet

def RackDraft.sheet (r : RackDraft) : RackSheet := r.items.foldl RackSheet.enter (.blank r.rack)

inductive InfrastructureEntry where
  | description (text : String)
  | tags (tags : List String)
  | rack (r : RackDraft)

structure InfrastructureSheet where
  members : Json.Members
  layout : List Json

namespace InfrastructureSheet

def blank (name : String) : InfrastructureSheet := ⟨Json.setMember "name" (.string name) [], []⟩

def enter (s : InfrastructureSheet) : InfrastructureEntry → InfrastructureSheet
  | .description text =>
    { s with members := Json.setMember "description" (.string text) s.members }
  | .tags tags => { s with members := Json.setMember "tags" (.strings tags) s.members }
  | .rack r => { s with layout := s.layout ++ [r.sheet.document] }

def document (s : InfrastructureSheet) : Json :=
  .object (Json.setMember "layout" (.array s.layout) s.members)

/-- The sheet on which some entries have been made, one after the other. -/
def ofEntries (name : String) (entries : List InfrastructureEntry) : InfrastructureSheet :=
  entries.foldl enter (blank name)

end InfrastructureSheet

inductive DatacenterEntry where
  | tags (tags : List String)
  | location (latitude longitude : Float)
  | room (r : RoomDraft)

structure DatacenterSheet where
  members : Json.Members
  rooms : List Json

namespace DatacenterSheet

def blank (name : String) : DatacenterSheet := ⟨Json.setMember "name" (.string name) [], []⟩

def enter (s : DatacenterSheet) : DatacenterEntry → DatacenterSheet
  | .tags tags => { s with members := Json.setMember "tags" (.strings tags) s.members }
  | .location latitude longitude =>
    { s with members := Json.setMember "location" (.location latitude longitude) s.members }
  | .room r => { s with rooms := s.rooms ++ [r.document] }

def document (s : DatacenterSheet) : Json :=
  .object (Json.setMember "rooms" (.array s.rooms) s.members)

/-- The sheet on which some entries have been made, one after the other. -/
def ofEntries (name : String) (entries : List DatacenterEntry) : DatacenterSheet :=
  entries.foldl enter (blank name)

end DatacenterSheet

end RackInventory
