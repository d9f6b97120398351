import Mathlib.Algebra.GroupWithZero.Nat
import Mathlib.Tactic.MkIffOfInductiveProp
import RackInventory.Inventory.Catalog
import RackInventory.Proofs.Shape.Given
import RackInventory.Proofs.Simulation.Sheets
import RackInventory.Proofs.View.RoomRacks
import RackInventory.Proofs.View.RoomTotals

/-!
# What a client reads of a drafted inventory

A client reads the document of an infrastructure back when it can read the type of every item that
was drafted, and the document of a datacenter when its doubles are finite and each row has a number
of racks that fits in 32 bits, which is all that a row can state. What it reads is what was drafted.
Its flat list has the items rack by rack, and the total that it shows for a room is the number of
the racks that it lists there, as long as that number fits in 32 bits too.
-/

namespace RackInventory

section Lists

variable {α β γ : Type}

theorem map_eq_map_iff_forall₂ {f : α → γ} {g : β → γ} {l : List α} {m : List β} :
    l.map f = m.map g ↔ List.Forall₂ (fun a b => f a = g b) l m := by
  rw [← List.forall₂_eq_eq_eq, List.forall₂_map_left_iff, List.forall₂_map_right_iff]

theorem forall₂_and_eq_iff {p : α → Prop} {f : α → β} {l : List α} {m : List β} :
    List.Forall₂ (fun a b => p a ∧ f a = b) l m ↔ (∀ a ∈ l, p a) ∧ l.map f = m := by
  rw [List.forall₂_and_left, ← List.forall₂_map_left_iff (R := Eq), List.forall₂_eq_eq_eq]

theorem exists_forall₂_iff {R : α → β → Prop} {l : List α} :
    (∃ m, List.Forall₂ R l m) ↔ ∀ a ∈ l, ∃ b, R a b := by
  constructor
  · rintro ⟨m, related⟩
    induction related with
    | nil => exact nofun
    | cons here _ ih => exact List.forall_mem_cons.mpr ⟨⟨_, here⟩, ih⟩
  · intro each
    induction l with
    | nil => exact ⟨[], .nil⟩
    | cons a l ih =>
      obtain ⟨⟨b, here⟩, later⟩ := List.forall_mem_cons.mp each
      obtain ⟨m, related⟩ := ih later
      exact ⟨b :: m, .cons here related⟩

end Lists

theorem Preset.exists_decode (p : Preset) (id : String) :
    ∃ t, EquipmentType.shape.decode (p.document id) = .ok t := by
  cases p <;> exact ⟨_, rfl⟩

theorem EquipmentCategory.forall_iff {p : EquipmentCategory → Prop} :
    (∀ c, p c) ↔ p .node ∧ p .network ∧ p .storage ∧ p .misc := by
  constructor
  · exact fun each => ⟨each .node, each .network, each .storage, each .misc⟩
  · rintro ⟨node, network, storage, misc⟩ c
    cases c <;> assumption

namespace EquipmentDraft

/-- Whether an item of a flat list is the one that was drafted for a rack. -/
structure IsItem (rack : String) (e : EquipmentDraft) (i : PlacedItem) : Prop where
  category : i.category = e.category
  name : i.name = e.name
  rack : i.rack = rack
  type : EquipmentType.shape.decode e.type = .ok i.type
  position : i.position = none
  tags : i.tags = e.tags

variable {e : EquipmentDraft} {rack : String}

theorem decode_document_eq_ok_iff {q : Equipment} :
    Equipment.shape.decode (e.document rack) = .ok q ↔
      ∃ t, EquipmentType.shape.decode e.type = .ok t ∧
        { name := e.name, type := t, rack := some rack, slot := none, position := none,
          tags := e.tags } = q := by
  simp [document, Equipment.shape]

theorem isItem_ofEquipment {q : Equipment}
    (read : Equipment.shape.decode (e.document rack) = .ok q) :
    e.IsItem rack (.ofEquipment rack e.category q) := by
  obtain ⟨t, type, rfl⟩ := decode_document_eq_ok_iff.mp read
  exact ⟨rfl, rfl, rfl, type, rfl, rfl⟩

end EquipmentDraft

namespace RackDraft

variable {r : RackDraft} {l : RackLayout}

def inOrder (r : RackDraft) : List EquipmentDraft :=
  r.listed .node ++ r.listed .network ++ r.listed .storage ++ r.listed .misc

theorem inOrder_eq_flatMap (r : RackDraft) :
    r.inOrder = EquipmentCategory.all.flatMap r.listed := by
  simp [inOrder, EquipmentCategory.all]

theorem mem_listed {e : EquipmentDraft} {c : EquipmentCategory} :
    e ∈ r.listed c ↔ e ∈ r.items ∧ e.category = c := by
  simp [listed]

theorem decode_document_eq_ok_iff :
    RackLayout.shape.decode r.document = .ok l ↔
      r.rack = l.rack ∧ ∀ c, List.Forall₂
        (fun e q => Equipment.shape.decode (e.document r.rack) = .ok q) (r.listed c)
        (l.ofCategory c) := by
  obtain ⟨rack, nodes, network, storage, misc⟩ := l
  have lists (c : EquipmentCategory) :
      r.ofCategory c = .array ((r.listed c).map (·.document r.rack)) := rfl
  simp [document, RackLayout.shape, lists, EquipmentCategory.forall_iff, RackLayout.ofCategory]

theorem exists_decode_document_iff :
    (∃ l, RackLayout.shape.decode r.document = .ok l) ↔
      ∀ e ∈ r.items, ∃ t, EquipmentType.shape.decode e.type = .ok t := by
  have items (c : EquipmentCategory) :
      (∃ m, List.Forall₂ (fun e q => Equipment.shape.decode (e.document r.rack) = .ok q)
        (r.listed c) m) ↔
        ∀ e ∈ r.listed c, ∃ t, EquipmentType.shape.decode e.type = .ok t := by
    simp [exists_forall₂_iff, EquipmentDraft.decode_document_eq_ok_iff]
  constructor
  · rintro ⟨l, read⟩ e mem
    have each := (decode_document_eq_ok_iff.mp read).2 e.category
    exact (items e.category).mp ⟨_, each⟩ e (mem_listed.mpr ⟨mem, rfl⟩)
  · intro types
    have each (c : EquipmentCategory) :=
      (items c).mpr fun e mem => types e (mem_listed.mp mem).1
    choose list each using each
    refine ⟨⟨r.rack, list .node, list .network, list .storage, list .misc⟩, ?_⟩
    refine decode_document_eq_ok_iff.mpr ⟨rfl, fun c => ?_⟩
    cases c <;> exact each _

theorem forall₂_items (read : RackLayout.shape.decode r.document = .ok l) :
    List.Forall₂ (EquipmentDraft.IsItem r.rack) r.inOrder l.items := by
  obtain ⟨rack, lists⟩ := decode_document_eq_ok_iff.mp read
  rw [inOrder_eq_flatMap, RackLayout.items, ← rack]
  have categories : List.Forall₂ Eq EquipmentCategory.all EquipmentCategory.all :=
    List.forall₂_same.mpr fun _ _ => rfl
  refine List.rel_flatMap categories ?_
  rintro c _ rfl
  rw [List.forall₂_map_right_iff]
  have listed := (List.forall₂_and_left _ _).mpr ⟨fun e (mem : e ∈ r.listed c) => mem, lists c⟩
  refine listed.imp fun e q h => ?_
  obtain ⟨_, rfl⟩ := mem_listed.mp h.1
  exact EquipmentDraft.isItem_ofEquipment h.2

end RackDraft

namespace InfrastructureDraft

variable {d : InfrastructureDraft} {i : Infrastructure}

def inOrder (d : InfrastructureDraft) : List (String × EquipmentDraft) :=
  d.racks.flatMap fun r => r.inOrder.map fun e => (r.rack, e)

def Readable (d : InfrastructureDraft) : Prop :=
  ∀ r ∈ d.racks, ∀ e ∈ r.items, ∃ t, EquipmentType.shape.decode e.type = .ok t

structure IsRead (d : InfrastructureDraft) (i : Infrastructure) : Prop where
  name : i.name = d.name
  description : i.description = d.description
  tags : i.tags = d.tags.getD []
  racks : i.layout.map (·.rack) = d.racks.map (·.rack)
  items : List.Forall₂ (fun e item => e.2.IsItem e.1 item) d.inOrder i.items

theorem decode_document_eq_ok_iff :
    Infrastructure.shape.decode d.document = .ok i ↔
      d.name = i.name ∧ d.description = i.description ∧ d.tags.getD [] = i.tags ∧
        List.Forall₂ (fun r l => RackLayout.shape.decode r.document = .ok l) d.racks i.layout := by
  obtain ⟨name, description, tags, racks⟩ := d
  obtain ⟨name', description', tags', layout⟩ := i
  cases description <;> cases tags <;>
    simp [document, Infrastructure.shape, and_comm, and_assoc]

theorem exists_decode_document_iff :
    (∃ i, Infrastructure.shape.decode d.document = .ok i) ↔ d.Readable := by
  have layouts : (∃ layout, List.Forall₂ (fun r l => RackLayout.shape.decode r.document = .ok l)
      d.racks layout) ↔ d.Readable := by
    simp only [exists_forall₂_iff, RackDraft.exists_decode_document_iff, Readable]
  rw [← layouts]
  constructor
  · rintro ⟨i, read⟩
    exact ⟨i.layout, (decode_document_eq_ok_iff.mp read).2.2.2⟩
  · rintro ⟨layout, read⟩
    exact ⟨⟨d.name, d.description, d.tags.getD [], layout⟩,
      decode_document_eq_ok_iff.mpr ⟨rfl, rfl, rfl, read⟩⟩

theorem isRead_of_decode (read : Infrastructure.shape.decode d.document = .ok i) : d.IsRead i := by
  obtain ⟨name, description, tags, layout⟩ := decode_document_eq_ok_iff.mp read
  refine ⟨name.symm, description.symm, tags.symm, ?_, ?_⟩
  · exact (map_eq_map_iff_forall₂.mpr <|
      layout.imp fun r l read => (RackDraft.decode_document_eq_ok_iff.mp read).1).symm
  · refine List.rel_flatMap layout ?_
    intro r l read
    rw [List.forall₂_map_left_iff]
    exact RackDraft.forall₂_items read

/-- The flat list names the items as they were drafted. -/
theorem IsRead.names (h : d.IsRead i) :
    d.inOrder.map (fun e => (e.1, e.2.name)) = i.items.map fun item => (item.rack, item.name) :=
  map_eq_map_iff_forall₂.mpr <|
    h.items.imp fun _ _ same => Prod.ext same.rack.symm same.name.symm

end InfrastructureDraft

@[simp]
theorem decode_double_eq_ok_iff {x y : Float} :
    Shape.f64.decode (.double x) = .ok y ↔ x.isFinite = true ∧ x = y := by
  rw [Json.double]
  cases x.isFinite <;> simp [Shape.decode, Json.float, numberAsDouble, wrongType]

namespace RowDraft

@[mk_iff]
structure Readable (r : RowDraft) : Prop where
  finite : ∀ k ∈ r.racks, k.2.isFinite = true
  short : r.racks.length < UInt32.size

def row (r : RowDraft) : Row where
  name := some r.name
  racks := r.racks.map fun k => ⟨k.1, k.2⟩
  stated := UInt32.ofNat r.racks.length

variable {r : RowDraft}

theorem decode_document_eq_ok_iff {row : Row} :
    Row.shape.decode r.document = .ok row ↔ r.Readable ∧ r.row = row := by
  have rack (k : String × Float) (q : RoomRack) :
      RoomRack.shape.decode (.object [("fillrate", .double k.2), ("name", .string k.1)]) = .ok q ↔
        k.2.isFinite = true ∧ RoomRack.mk k.1 k.2 = q := by
    simp [RoomRack.shape]
  simp [document, Row.shape, rack, forall₂_and_eq_iff, readable_iff, RowDraft.row]

/-- A row states the number of its racks. -/
theorem stated_row (readable : r.Readable) : r.row.stated.toNat = r.racks.length :=
  UInt32.toNat_ofNat_of_lt' readable.short

end RowDraft

namespace RoomDraft

@[mk_iff]
structure Readable (r : RoomDraft) : Prop where
  width : r.width.isFinite = true
  depth : r.depth.isFinite = true
  rows : ∀ row ∈ r.rows, row.Readable

def room (r : RoomDraft) : Room where
  name := r.name
  dimensions := some ⟨r.width, r.depth⟩
  rows := r.rows.map (·.row)

def count (r : RoomDraft) : Nat := (r.rows.map (·.racks.length)).sum

variable {r : RoomDraft}

theorem decode_document_eq_ok_iff {room : Room} :
    Room.shape.decode r.document = .ok room ↔ r.Readable ∧ r.room = room := by
  simp [document, Room.shape, Dimensions.shape, RowDraft.decode_document_eq_ok_iff,
    forall₂_and_eq_iff, readable_iff, and_assoc, RoomDraft.room]

theorem statedIn_room (readable : r.Readable) : statedIn r.room.rows = r.count := by
  have stated : r.rows.map (·.row.stated.toNat) = r.rows.map (·.racks.length) :=
    List.map_congr_left fun row mem => RowDraft.stated_row (readable.rows row mem)
  rw [count, ← stated, statedIn, room, List.map_map]
  rfl

theorem length_rackEntries (r : RoomDraft) (infrastructures : List Infrastructure) :
    (r.room.rackEntries infrastructures "").length = r.count := by
  rw [Room.rackEntries_empty, List.length_map, Room.racks, List.length_flatMap, room, List.map_map]
  simp [count, Function.comp_def, RowDraft.row]

end RoomDraft

namespace DatacenterDraft

@[mk_iff]
structure Readable (d : DatacenterDraft) : Prop where
  location : ∀ place ∈ d.location, place.1.isFinite = true ∧ place.2.isFinite = true
  rooms : ∀ r ∈ d.rooms, r.Readable

def datacenter (d : DatacenterDraft) : Datacenter where
  name := d.name
  tags := d.tags.getD []
  location := d.location.map fun place => ⟨place.1, place.2⟩
  rooms := d.rooms.map (·.room)

variable {d : DatacenterDraft}

theorem decode_document_eq_ok_iff {c : Datacenter} :
    Datacenter.shape.decode d.document = .ok c ↔ d.Readable ∧ d.datacenter = c := by
  obtain ⟨name, tags, location, rooms⟩ := d
  cases location <;> cases tags <;>
    simp [document, Datacenter.shape, Location.shape, Json.location, readable_iff, datacenter,
      RoomDraft.decode_document_eq_ok_iff, forall₂_and_eq_iff]

/-- Whether a datacenter is the one that was drafted, with rooms that list the racks that were drafted
and show how many they list, as far as 32 bits can tell. -/
structure IsRead (d : DatacenterDraft) (c : Datacenter) : Prop where
  drafted : c = d.datacenter
  counts : ∀ infrastructures,
    c.rooms.map (fun r => (r.rackEntries infrastructures "").length) = d.rooms.map (·.count)
  totals : ∀ r ∈ c.rooms, ∀ infrastructures, r.Totals (r.rackEntries infrastructures "").length

theorem isRead_datacenter (readable : d.Readable) : d.IsRead d.datacenter where
  drafted := rfl
  counts infrastructures := by
    rw [datacenter, List.map_map]
    exact List.map_congr_left fun r _ => r.length_rackEntries infrastructures
  totals := by
    intro _ mem infrastructures
    obtain ⟨r, drafted, rfl⟩ := List.mem_map.mp mem
    rw [RoomDraft.length_rackEntries, ← RoomDraft.statedIn_room (readable.rooms r drafted)]
    exact Room.totals_stated _

end DatacenterDraft

/-- A document on which entries have been made is read exactly when what was entered can be read: the
types of the items can be, or the doubles are finite and each row has fewer racks than need more than 32
bits. What is read of it is what was entered. -/
theorem entered_is_read (name : String) :
    (∀ entries : List InfrastructureEntry,
      let d := InfrastructureDraft.ofEntries name entries
      let document := (InfrastructureSheet.ofEntries name entries).document
      ((∃ i, Infrastructure.shape.decode document = .ok i) ↔ d.Readable) ∧
        ∀ i, Infrastructure.shape.decode document = .ok i → d.IsRead i) ∧
    ∀ entries : List DatacenterEntry,
      let d := DatacenterDraft.ofEntries name entries
      let document := (DatacenterSheet.ofEntries name entries).document
      ((∃ c, Datacenter.shape.decode document = .ok c) ↔ d.Readable) ∧
        ∀ c, Datacenter.shape.decode document = .ok c → d.IsRead c := by
  refine ⟨fun entries => ?_, fun entries => ?_⟩
  · rw [InfrastructureDraft.document_entered]
    exact ⟨InfrastructureDraft.exists_decode_document_iff,
      fun _ => InfrastructureDraft.isRead_of_decode⟩
  · rw [DatacenterDraft.document_entered]
    simp only [DatacenterDraft.decode_document_eq_ok_iff]
    constructor
    · simp
    · rintro c ⟨readable, rfl⟩
      exact DatacenterDraft.isRead_datacenter readable

namespace Sample

/-- Tags that are entered twice, and two items that are not entered in the order of the
categories. -/
def mercuryEntries : List InfrastructureEntry :=
  [.tags ["old"],
    .rack ⟨"R01", [⟨.misc, "pdu1", Preset.misc.document "apc-pdu", ["infra"]⟩,
      ⟨.node, "cn1", Preset.node.document "sm220bt", []⟩]⟩,
    .tags ["hpc"]]

def parisEntries : List DatacenterEntry :=
  [.room ⟨"noisy", 10000, 8000, [⟨"A", [("R01", 0.5), ("R02", 0.25)]⟩, ⟨"B", [("R10", 0)]⟩]⟩,
    .location 48.85 2.35]

theorem mercury_readable : (InfrastructureDraft.ofEntries "mercury" mercuryEntries).Readable := by
  simp [InfrastructureDraft.Readable, InfrastructureDraft.ofEntries, mercuryEntries,
    InfrastructureEntry.rack?, Preset.exists_decode]

theorem paris_readable : (DatacenterDraft.ofEntries "paris" parisEntries).Readable := by
  have finite : (10000 : Float).isFinite ∧ (8000 : Float).isFinite ∧ (0.5 : Float).isFinite ∧
      (0.25 : Float).isFinite ∧ (0 : Float).isFinite ∧ (48.85 : Float).isFinite ∧
      (2.35 : Float).isFinite := by
    decide +kernel
  have short : 2 < UInt32.size ∧ 1 < UInt32.size := by decide
  simp [DatacenterDraft.readable_iff, DatacenterDraft.ofEntries, parisEntries,
    DatacenterEntry.room?, DatacenterEntry.location?, RoomDraft.readable_iff,
    RowDraft.readable_iff, or_imp, forall_and, finite, short]

theorem entries_are_read :
    (∃ i, Infrastructure.shape.decode
        (InfrastructureSheet.ofEntries "mercury" mercuryEntries).document = .ok i ∧
      i.tags = ["hpc"] ∧
      [("R01", "cn1"), ("R01", "pdu1")] = i.items.map fun item => (item.rack, item.name)) ∧
    ∃ c, Datacenter.shape.decode
        (DatacenterSheet.ofEntries "paris" parisEntries).document = .ok c ∧
      c.rooms.map (·.entry.racks) = [3] ∧
      c.rooms.map (fun r => (r.rackEntries [] "").length) = [3] := by
  constructor
  · obtain ⟨readable, read⟩ := (entered_is_read "mercury").1 mercuryEntries
    obtain ⟨i, decoded⟩ := readable.mpr mercury_readable
    have entered := read i decoded
    exact ⟨i, decoded, entered.tags, entered.names⟩
  · obtain ⟨readable, read⟩ := (entered_is_read "paris").2 parisEntries
    obtain ⟨c, decoded⟩ := readable.mpr paris_readable
    have entered := read c decoded
    refine ⟨c, decoded, ?_, entered.counts []⟩
    rw [entered.drafted]
    rfl

/-- A room with a number of racks of one name in each row. -/
def crowded (rows : List Nat) : RoomDraft :=
  ⟨"hall", 1, 1, rows.map fun n => ⟨"A", .replicate n ("R01", 0)⟩⟩

theorem count_crowded (rows : List Nat) : (crowded rows).count = rows.sum := by
  simp [RoomDraft.count, crowded, Function.comp_def]

theorem readable_crowded_iff {rows : List Nat} :
    (DatacenterDraft.ofEntries "paris" [.room (crowded rows)]).Readable ↔
      ∀ n ∈ rows, n < UInt32.size := by
  have finite : (0 : Float).isFinite = true ∧ (1 : Float).isFinite = true := by decide +kernel
  have row (n : Nat) : (RowDraft.mk "A" (.replicate n ("R01", 0))).Readable ↔ n < UInt32.size := by
    rw [RowDraft.readable_iff, List.length_replicate]
    refine and_iff_right fun k mem => ?_
    rw [List.eq_of_mem_replicate mem]
    exact finite.1
  simp [DatacenterDraft.readable_iff, DatacenterDraft.ofEntries, DatacenterEntry.room?,
    DatacenterEntry.location?, RoomDraft.readable_iff, crowded, row, finite]

/-- A row of too many racks is not read. Where two rows have too many between them, the room lists them
all and shows none. -/
theorem crowded_misread :
    (¬ ∃ c, Datacenter.shape.decode
      (DatacenterSheet.ofEntries "paris" [.room (crowded [UInt32.size])]).document = .ok c) ∧
    ∃ c, Datacenter.shape.decode (DatacenterSheet.ofEntries "paris"
        [.room (crowded [UInt32.size / 2, UInt32.size / 2])]).document = .ok c ∧
      c.rooms.map (·.entry.racks) = [0] ∧ c.rooms.map (·.checkedTotal) = [none] ∧
      c.rooms.map (fun r => (r.rackEntries [] "").length) = [UInt32.size] := by
  simp only [DatacenterDraft.document_entered, DatacenterDraft.decode_document_eq_ok_iff]
  constructor
  · rintro ⟨c, readable, -⟩
    exact absurd (readable_crowded_iff.mp readable _ List.mem_cons_self) (Nat.lt_irrefl _)
  · have halves : ∀ n ∈ [UInt32.size / 2, UInt32.size / 2], n < UInt32.size := by decide
    have readable := readable_crowded_iff.mpr halves
    obtain ⟨r, drafted⟩ : ∃ r, r = crowded [UInt32.size / 2, UInt32.size / 2] := ⟨_, rfl⟩
    rw [← drafted] at readable ⊢
    have whole : (r.room.rackEntries [] "").length = UInt32.size := by
      rw [RoomDraft.length_rackEntries, drafted, count_crowded]
      rfl
    have totals := (DatacenterDraft.isRead_datacenter readable).totals r.room List.mem_cons_self []
    obtain ⟨shown, checked⟩ := totals.wraps (Nat.le_of_eq whole.symm)
    rw [whole, Nat.mod_self] at shown
    exact ⟨_, ⟨readable, rfl⟩, congrArg ([·]) shown, congrArg ([·]) checked, congrArg ([·]) whole⟩

end Sample

end RackInventory
