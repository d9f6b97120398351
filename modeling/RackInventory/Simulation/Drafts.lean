import RackInventory.Inventory.Category

/-!
# Documents made to order

A draft says what a document is to hold; its document is what the inventory would send. The members
of an object are written in ascending order of their names. A draft of a rack keeps its items in one
list, and the document sorts them into the four lists by category. A double that is not finite has no
document, and null is written in its place.
-/

namespace RackInventory

inductive Preset where
  | node
  | switch
  | storage
  | misc
deriving DecidableEq, Repr

def Preset.document (id : String) : Preset → Json
  | .node =>
    .object
      [("cpu", .object [("cores", .nat 64), ("model", .string "AMD EPYC 7763"), ("sockets", .nat 2)]),
        ("height", .nat 1), ("id", .string id), ("model", .string (id ++ " model")),
        ("netifs", .array [.object [("bandwidth", .nat 25000000000), ("type", .string "ethernet")]]),
        ("ram", .object [("dimm", .nat 16), ("size", .nat 34359738368)]),
        ("storage", .array [.object [("model", .string "Micron 7450"), ("size", .nat 1920383410176),
          ("type", .string "ssd")]]),
        ("width", .float 0.5)]
  | .switch =>
    .object
      [("height", .nat 1), ("id", .string id), ("model", .string (id ++ " model")),
        ("netifs", .array [.object [("bandwidth", .nat 100000000000), ("number", .nat 48),
          ("type", .string "ethernet")]]),
        ("width", .nat 1)]
  | .storage =>
    .object
      [("disks", .array [.object [("model", .string "Samsung PM1733"), ("number", .nat 24),
          ("size", .nat 4398046511104), ("type", .string "ssd")]]),
        ("height", .nat 2), ("id", .string id), ("model", .string (id ++ " model")),
        ("width", .nat 1)]
  | .misc => .object [("height", .nat 1), ("id", .string id), ("width", .nat 1)]

/-- An item of equipment. Its type is a document of its own. -/
structure EquipmentDraft where
  category : EquipmentCategory
  name : String
  type : Json
  tags : List String

def EquipmentDraft.document (rack : String) (e : EquipmentDraft) : Json :=
  .object [("name", .string e.name), ("rack", .string rack), ("tags", .strings e.tags),
    ("type", e.type)]

structure RackDraft where
  rack : String
  items : List EquipmentDraft

namespace RackDraft

def ofCategory (r : RackDraft) (c : EquipmentCategory) : Json :=
  .array ((r.items.filter (·.category = c)).map (·.document r.rack))

def document (r : RackDraft) : Json :=
  .object [("misc", r.ofCategory .misc), ("network", r.ofCategory .network),
    ("nodes", r.ofCategory .node), ("rack", .string r.rack), ("storage", r.ofCategory .storage)]

end RackDraft

structure InfrastructureDraft where
  name : String
  description : Option String
  tags : Option (List String)
  racks : List RackDraft

/-- A member that may be left out. -/
def Json.memberOf {α : Type} (name : String) (f : α → Json) (a : Option α) : Json.Members :=
  a.toList.map fun a => (name, f a)

def InfrastructureDraft.document (i : InfrastructureDraft) : Json :=
  .object (Json.memberOf "description" .string i.description ++
    [("layout", .array (i.racks.map (·.document))), ("name", .string i.name)] ++
    Json.memberOf "tags" .strings i.tags)

/-- A double, as far as it can be written. -/
def Json.double (x : Float) : Json := if x.isFinite then .float x else .null

structure RowDraft where
  name : String
  racks : List (String × Float)

/-- A row states the number of its racks. -/
def RowDraft.document (r : RowDraft) : Json :=
  .object [("name", .string r.name), ("nbracks", .nat r.racks.length),
    ("racks", .array (r.racks.map fun (name, rate) =>
      .object [("fillrate", .double rate), ("name", .string name)]))]

structure RoomDraft where
  name : String
  width : Float
  depth : Float
  rows : List RowDraft

def RoomDraft.document (r : RoomDraft) : Json :=
  .object [("dimensions", .object [("depth", .double r.depth), ("width", .double r.width)]),
    ("name", .string r.name), ("rows", .array (r.rows.map (·.document)))]

structure DatacenterDraft where
  name : String
  tags : Option (List String)
  location : Option (Float × Float)
  rooms : List RoomDraft

def Json.location (latitude longitude : Float) : Json :=
  .object [("latitude", .double latitude), ("longitude", .double longitude)]

def DatacenterDraft.document (d : DatacenterDraft) : Json :=
  .object (Json.memberOf "location" (fun (latitude, longitude) => .location latitude longitude)
      d.location ++
    [("name", .string d.name), ("rooms", .array (d.rooms.map (·.document)))] ++
    Json.memberOf "tags" .strings d.tags)

structure RackEntryDraft where
  name : String
  datacenter : String
  room : String
  fillrate : Float
  nodes : List String

def RackEntryDraft.document (r : RackEntryDraft) : Json :=
  .object [("datacenter", .string r.datacenter), ("fillrate", .double r.fillrate),
    ("name", .string r.name), ("nodes", .array (r.nodes.map fun n => .object [("name", .string n)])),
    ("room", .string r.room)]

end RackInventory
