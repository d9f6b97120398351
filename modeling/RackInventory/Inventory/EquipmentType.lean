import RackInventory.Shape.OfText

/-!
# Equipment types

What a model of equipment is made of: its place in the rack, processors, memory, storage devices,
network interfaces and disk groups. Everything but the identifier may be unknown. An amount of
memory or storage is a number of bytes, or a text that is shown as it is.
-/

namespace RackInventory

inductive Size where
  | bytes (n : UInt64)
  | literal (text : String)
deriving DecidableEq

def Size.shape : Shape Size :=
  .map (.either "Size")
    (fun | .inl n => .bytes n | .inr s => .literal s)
    (fun | .bytes n => .inl n | .literal s => .inr s)
    (by intro b; cases b <;> rfl)

structure Cpu where
  sockets : Option UInt32
  model : Option String
  specs : Option String
  cores : Option UInt32
deriving DecidableEq

def Cpu.shape : Shape Cpu :=
  .map
    (.record "Cpu" <|
      .optional "sockets" .u32 <|
      .optional "model" .string <|
      .optional "specs" .string <|
      .optional "cores" .u32 .nil)
    (fun (sockets, model, specs, cores, ()) => { sockets, model, specs, cores })
    (fun c => (c.sockets, c.model, c.specs, c.cores, ()))
    fun _ => rfl

structure Ram where
  dimm : Option UInt32
  size : Option Size
deriving DecidableEq

def Ram.shape : Shape Ram :=
  .map
    (.record "Ram" <|
      .optional "dimm" .u32 <|
      .optional "size" Size.shape .nil)
    (fun (dimm, size, ()) => { dimm, size })
    (fun r => (r.dimm, r.size, ()))
    fun _ => rfl

structure StorageDevice where
  kind : Option String
  model : Option String
  size : Option Size
deriving DecidableEq

def StorageDevice.shape : Shape StorageDevice :=
  .map
    (.record "NodeStorage" <|
      .optional "type" .string <|
      .optional "model" .string <|
      .optional "size" Size.shape .nil)
    (fun (kind, model, size, ()) => { kind, model, size })
    (fun d => (d.kind, d.model, d.size, ()))
    fun _ => rfl

structure NetworkInterface where
  kind : Option String
  bandwidth : Option UInt64
  number : Option UInt32
deriving DecidableEq

def NetworkInterface.shape : Shape NetworkInterface :=
  .map
    (.record "NetworkInterface" <|
      .optional "type" .string <|
      .optional "bandwidth" .u64 <|
      .optional "number" .u32 .nil)
    (fun (kind, bandwidth, number, ()) => { kind, bandwidth, number })
    (fun i => (i.kind, i.bandwidth, i.number, ()))
    fun _ => rfl

structure DiskGroup where
  kind : Option String
  model : Option String
  size : Option Size
  number : Option UInt32
deriving DecidableEq

def DiskGroup.shape : Shape DiskGroup :=
  .map
    (.record "DiskGroup" <|
      .optional "type" .string <|
      .optional "model" .string <|
      .optional "size" Size.shape <|
      .optional "number" .u32 .nil)
    (fun (kind, model, size, number, ()) => { kind, model, size, number })
    (fun d => (d.kind, d.model, d.size, d.number, ()))
    fun _ => rfl

structure EquipmentType where
  id : String
  model : Option String
  height : Option Float
  width : Option Float
  specs : Option String
  cpu : Option Cpu
  ram : Option Ram
  storage : List StorageDevice
  netifs : List NetworkInterface
  disks : List DiskGroup
deriving DecidableEq

def EquipmentType.shape : Shape EquipmentType :=
  .map
    (.record "EquipmentType" <|
      .required "id" .string <|
      .optional "model" .string <|
      .optional "height" .f64 <|
      .optional "width" .f64 <|
      .optional "specs" .string <|
      .optional "cpu" Cpu.shape <|
      .optional "ram" Ram.shape <|
      .lenient "storage" StorageDevice.shape <|
      .lenient "netifs" NetworkInterface.shape <|
      .lenient "disks" DiskGroup.shape .nil)
    (fun (id, model, height, width, specs, cpu, ram, storage, netifs, disks, ()) =>
      { id, model, height, width, specs, cpu, ram, storage, netifs, disks })
    (fun t => (t.id, t.model, t.height, t.width, t.specs, t.cpu, t.ram, t.storage, t.netifs,
      t.disks, ()))
    fun _ => rfl

end RackInventory
