import RackInventory.Shape.OfText

/-!
# Datacenters and racks

A datacenter has rooms, a room has rows and a row has racks. The number of racks that a row states
is kept as it is given and is not compared with its list. A rack on its own also says where it
stands and which machines are in it.
-/

namespace RackInventory

/-- A place on the globe, in degrees. -/
structure Location where
  latitude : Float
  longitude : Float
deriving DecidableEq

def Location.shape : Shape Location :=
  .map
    (.record "Location" <|
      .required "latitude" .f64 <|
      .required "longitude" .f64 .nil)
    (fun (latitude, longitude, ()) => { latitude, longitude })
    (fun l => (l.latitude, l.longitude, ()))
    fun _ => rfl

/-- The floor of a room, in millimetres. -/
structure Dimensions where
  width : Float
  depth : Float
deriving DecidableEq

def Dimensions.shape : Shape Dimensions :=
  .map
    (.record "Dimensions" <|
      .required "width" .f64 <|
      .required "depth" .f64 .nil)
    (fun (width, depth, ()) => { width, depth })
    (fun d => (d.width, d.depth, ()))
    fun _ => rfl

structure RoomRack where
  name : String
  fillrate : Float
deriving DecidableEq

def RoomRack.shape : Shape RoomRack :=
  .map
    (.record "RoomRack" <|
      .required "name" .string <|
      .orElse "fillrate" .f64 0 .nil)
    (fun (name, fillrate, ()) => { name, fillrate })
    (fun r => (r.name, r.fillrate, ()))
    fun _ => rfl

structure Row where
  name : Option String
  racks : List RoomRack
  stated : UInt32
deriving DecidableEq

def Row.shape : Shape Row :=
  .map
    (.record "RacksRow" <|
      .optional "name" .string <|
      .lenient "racks" RoomRack.shape <|
      .orElse "nbracks" .u32 0 .nil)
    (fun (name, racks, stated, ()) => { name, racks, stated })
    (fun r => (r.name, r.racks, r.stated, ()))
    fun _ => rfl

structure Room where
  name : String
  dimensions : Option Dimensions
  rows : List Row
deriving DecidableEq

def Room.shape : Shape Room :=
  .map
    (.record "DatacenterRoom" <|
      .required "name" .string <|
      .optional "dimensions" Dimensions.shape <|
      .lenient "rows" Row.shape .nil)
    (fun (name, dimensions, rows, ()) => { name, dimensions, rows })
    (fun r => (r.name, r.dimensions, r.rows, ()))
    fun _ => rfl

structure Datacenter where
  name : String
  tags : List String
  location : Option Location
  rooms : List Room
deriving DecidableEq

def Datacenter.shape : Shape Datacenter :=
  .map
    (.record "Datacenter" <|
      .required "name" .string <|
      .lenient "tags" .string <|
      .optional "location" Location.shape <|
      .lenient "rooms" Room.shape .nil)
    (fun (name, tags, location, rooms, ()) => { name, tags, location, rooms })
    (fun d => (d.name, d.tags, d.location, d.rooms, ()))
    fun _ => rfl

structure RackNode where
  name : Option String
  infrastructure : Option String
deriving DecidableEq

def RackNode.shape : Shape RackNode :=
  .map
    (.record "RackNode" <|
      .optional "name" .string <|
      .optional "infrastructure" .string .nil)
    (fun (name, infrastructure, ()) => { name, infrastructure })
    (fun n => (n.name, n.infrastructure, ()))
    fun _ => rfl

structure Rack where
  name : String
  datacenter : Option String
  room : Option String
  row : Option String
  slot : Option UInt32
  fillrate : Option Float
  tags : List String
  nodes : List RackNode
deriving DecidableEq

def Rack.shape : Shape Rack :=
  .map
    (.record "Rack" <|
      .required "name" .string <|
      .optional "datacenter" .string <|
      .optional "room" .string <|
      .optional "row" .string <|
      .optional "slot" .u32 <|
      .optional "fillrate" .f64 <|
      .lenient "tags" .string <|
      .lenient "nodes" RackNode.shape .nil)
    (fun (name, datacenter, room, row, slot, fillrate, tags, nodes, ()) =>
      { name, datacenter, room, row, slot, fillrate, tags, nodes })
    (fun r => (r.name, r.datacenter, r.room, r.row, r.slot, r.fillrate, r.tags, r.nodes, ()))
    fun _ => rfl

end RackInventory
