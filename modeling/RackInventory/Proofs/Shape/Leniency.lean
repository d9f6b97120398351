import Mathlib.Logic.Relation
import RackInventory.Inventory.Datacenter
import RackInventory.Inventory.Infrastructure
import RackInventory.Proofs.Shape.Members

/-!
# Documents that say the same

A backend writes its documents loosely: it adds members that nobody asks for, orders members as it
likes, leaves out lists that are empty or writes null for them, leaves out what is unknown or writes
null for it, and leaves out numbers that are zero. Each of these is an edit of one object somewhere in
a document. Two documents that differ by edits are read as the same value.

The edits are said by the names of the records and of their fields, not by what the descriptions of
the types allow. Errors may differ between documents that are not read at all.
-/

namespace RackInventory

open Json

/-- The fields of a record that a backend may leave out. -/
structure SoftFields where
  /-- Lists, which may also be null when they are empty. -/
  lists : List String := []
  /-- What may be unknown. -/
  optionals : List String := []
  /-- Whole numbers that are zero unless they are given. -/
  counts : List String := []
  /-- Measures that are zero unless they are given. -/
  measures : List String := []

def SoftFields.members (f : SoftFields) : Members :=
  (f.lists.flatMap fun name => [(name, .null), (name, .array [])]) ++
    f.optionals.map (fun name => (name, .null)) ++ f.counts.map (fun name => (name, .nat 0)) ++
    f.measures.flatMap fun name => [(name, .nat 0), (name, .float 0)]

def softFields : (record : String) → SoftFields
  | "Datacenter" => { lists := ["tags", "rooms"], optionals := ["location"] }
  | "DatacenterRoom" => { lists := ["rows"], optionals := ["dimensions"] }
  | "RacksRow" => { lists := ["racks"], optionals := ["name"], counts := ["nbracks"] }
  | "RoomRack" => { measures := ["fillrate"] }
  | "Rack" =>
    { lists := ["tags", "nodes"], optionals := ["datacenter", "room", "row", "slot", "fillrate"] }
  | "RackNode" => { optionals := ["name", "infrastructure"] }
  | "Infrastructure" => { lists := ["tags", "layout"], optionals := ["description"] }
  | "RackLayout" => { lists := ["nodes", "network", "storage", "misc"] }
  | "Equipment" => { lists := ["tags"], optionals := ["rack", "slot", "position"] }
  | "Position" => { measures := ["height", "width"] }
  | "EquipmentType" =>
    { lists := ["storage", "netifs", "disks"]
      optionals := ["model", "height", "width", "specs", "cpu", "ram"] }
  | "Cpu" => { optionals := ["sockets", "model", "specs", "cores"] }
  | "Ram" => { optionals := ["dimm", "size"] }
  | "NodeStorage" => { optionals := ["type", "model", "size"] }
  | "NetworkInterface" => { optionals := ["type", "bandwidth", "number"] }
  | "DiskGroup" => { optionals := ["type", "model", "size", "number"] }
  | _ => {}

namespace Fields

/-- Whether a name is that of some field. -/
def knows : {α σ : Type} → Fields α σ → String → Bool
  | _, _, .nil, _ => false
  | _, _, .cons field aliases _ _ rest, name => isNamed field aliases name || rest.knows name

/-- The field that a name stands for is described by a shape. -/
inductive Has : {α β σ : Type} → Fields β σ → String → Shape α → Prop
  | here {α β σ : Type} {field name : String} {aliases : List String} {shape : Shape α}
      {absent : Option α} {rest : Fields β σ} (named : isNamed field aliases name = true) :
      Has (.cons field aliases shape absent rest) name shape
  | later {α β γ σ : Type} {field name : String} {aliases : List String} {first : Shape γ}
      {absent : Option γ} {rest : Fields β σ} {shape : Shape α}
      (foreign : isNamed field aliases name = false) (more : Has rest name shape) :
      Has (.cons field aliases first absent rest) name shape

end Fields

/-- One document differs from another by an edit of an object that is read as a record. -/
inductive Shape.Edit : {α : Type} → Shape α → Json → Json → Prop
  /-- A member that belongs to no field is added. -/
  | unknown {α σ : Type} {record : String} {fields : Fields α σ} (front back : Members)
      {name : String} (foreign : fields.knows name = false) (value : Json) :
      (Shape.record record fields).Edit (.object (front ++ back))
        (.object (front ++ (name, value) :: back))
  /-- The members are put in another order. -/
  | reorder {α σ : Type} {record : String} {fields : Fields α σ} {before after : Members}
      (perm : before.Perm after) :
      (Shape.record record fields).Edit (.object before) (.object after)
  /-- A member that says no more than its absence is added. -/
  | spare {α σ : Type} {record : String} {fields : Fields α σ} (front back : Members)
      {name : String} {value : Json} (soft : (name, value) ∈ (softFields record).members)
      (fresh : name ∉ (front ++ back).map Prod.fst) :
      (Shape.record record fields).Edit (.object (front ++ back))
        (.object (front ++ (name, value) :: back))
  /-- The value of a field is edited. -/
  | member {α β σ : Type} {record : String} {fields : Fields α σ} (front back : Members)
      {name : String} {shape : Shape β} {j k : Json} (field : fields.Has name shape)
      (inner : shape.Edit j k) :
      (Shape.record record fields).Edit (.object (front ++ (name, j) :: back))
        (.object (front ++ (name, k) :: back))
  /-- An item of a list is edited. -/
  | item {α : Type} {item : Shape α} (front back : List Json) {j k : Json}
      (inner : item.Edit j k) :
      (Shape.list item).Edit (.array (front ++ j :: back)) (.array (front ++ k :: back))
  /-- A value that may be missing is edited. -/
  | present {α : Type} {item : Shape α} {j k : Json} (inner : item.Edit j k) :
      (Shape.optional item).Edit j k
  /-- A value that is written as another one is edited. -/
  | mapped {α β : Type} {s : Shape α} {f : α → β} {g : β → α} {law : ∀ b, f (g b) = b}
      {j k : Json} (inner : s.Edit j k) : (Shape.map s f g law).Edit j k

namespace Fields

/-- Whether a value of the field with a name, which has no other name, reads as its absence does. -/
def Spares : {α σ : Type} → Fields α σ → String → Json → Prop
  | _, _, .nil, _, _ => False
  | _, _, .cons field aliases shape absent rest, name, value =>
    (name = field ∧ aliases = [] ∧ ∃ a, absent = some a ∧ shape.decode value = .ok a) ∨
      (isNamed field aliases name = false ∧ rest.Spares name value)

theorem ownMembers_append (field : String) (aliases : List String) (front back : Members) :
    ownMembers field aliases (front ++ back) =
      ownMembers field aliases front ++ ownMembers field aliases back :=
  List.filter_append ..

theorem otherMembers_append (field : String) (aliases : List String) (front back : Members) :
    otherMembers field aliases (front ++ back) =
      otherMembers field aliases front ++ otherMembers field aliases back :=
  List.filter_append ..

/-- What belongs to no field does not matter. -/
theorem hold_unknown {name : String} (value : Json) : ∀ {α σ : Type} (fields : Fields α σ)
    (front back : Members) {a : α}, fields.knows name = false →
    (fields.Hold (front ++ (name, value) :: back) a ↔ fields.Hold (front ++ back) a)
  | _, _, .nil, _, _, _, _ => Iff.rfl
  | _, _, .cons field aliases shape absent rest, front, back, (a, b), foreign => by
    rw [knows, Bool.or_eq_false_iff] at foreign
    rw [Hold, Hold, ownMembers_append, otherMembers_append, ownMembers_append, otherMembers_append,
      ownMembers_cons_of_foreign foreign.1, otherMembers_cons_of_foreign foreign.1,
      hold_unknown value rest _ _ foreign.2]

theorem Takes.perm {α : Type} {shape : Shape α} {absent : Option α} {own other : Members} {a : α}
    (perm : own.Perm other) (h : Takes shape absent own a) : Takes shape absent other a := by
  rcases h with ⟨rfl, missing⟩ | ⟨m, rfl, read⟩
  · exact .inl ⟨perm.nil_eq.symm, missing⟩
  · exact .inr ⟨m, perm.singleton_eq.symm, read⟩

/-- The order of the members does not matter. -/
theorem Hold.perm : ∀ {α σ : Type} {fields : Fields α σ} {before after : Members} {a : α},
    before.Perm after → fields.Hold before a → fields.Hold after a
  | _, _, .nil, _, _, _, _, _ => trivial
  | _, _, .cons _ _ _ _ _, _, _, (_, _), perm, h =>
    ⟨h.1.perm (perm.filter _), h.2.perm (perm.filter _)⟩

/-- A member that says no more than its absence does not matter. -/
theorem hold_spare {name : String} {value : Json} : ∀ {α σ : Type} (fields : Fields α σ)
    (front back : Members) {a : α}, fields.Spares name value →
    name ∉ (front ++ back).map Prod.fst →
    (fields.Hold (front ++ (name, value) :: back) a ↔ fields.Hold (front ++ back) a)
  | _, _, .nil, _, _, _, spares, _ => absurd spares id
  | _, _, .cons field aliases shape absent rest, front, back, (a, b), spares, fresh => by
    rw [Hold, Hold]
    rcases spares with ⟨rfl, rfl, d, rfl, read⟩ | ⟨foreign, spares⟩
    · have self : isNamed name [] name = true := by simp [isNamed]
      have others : ∀ m ∈ front ++ back, isNamed name [] m.1 = false := by
        intro m mem
        have different : m.1 ≠ name := fun same => fresh (same ▸ List.mem_map_of_mem mem)
        simpa [isNamed] using different
      have none := ownMembers_eq_nil_iff.mpr others
      have only : ownMembers name [] (front ++ (name, value) :: back) = [(name, value)] := by
        rw [ownMembers_append, List.append_eq_nil_iff] at none
        rw [ownMembers_append, ownMembers_cons_of_named self, none.1, none.2]
        rfl
      have same : otherMembers name [] (front ++ (name, value) :: back) =
          otherMembers name [] (front ++ back) := by
        rw [otherMembers_append, otherMembers_append, otherMembers_cons_of_named self]
      rw [none, only, same]
      refine and_congr_left fun _ => ?_
      constructor
      · rintro (⟨⟨⟩, _⟩ | ⟨m, ⟨⟩, given⟩)
        exact .inl ⟨rfl, congrArg some (Except.ok.inj (read.symm.trans given))⟩
      · rintro (⟨_, ⟨⟩⟩ | ⟨m, ⟨⟩, _⟩)
        exact .inr ⟨_, rfl, read⟩
    · have left : name ∉ (otherMembers field aliases front ++
          otherMembers field aliases back).map Prod.fst := by
        rw [← otherMembers_append]
        exact fun mem => fresh (List.map_subset _ (List.filter_subset_self _) mem)
      rw [ownMembers_append, otherMembers_append, ownMembers_append, otherMembers_append,
        ownMembers_cons_of_foreign foreign, otherMembers_cons_of_foreign foreign,
        hold_spare rest _ _ spares left]

theorem Takes.member {α : Type} {shape : Shape α} {absent : Option α} {name : String} {j k : Json}
    (same : ∀ x, shape.decode j = .ok x → shape.decode k = .ok x) {front back : Members} {a : α}
    (h : Takes shape absent (front ++ (name, j) :: back) a) :
    Takes shape absent (front ++ (name, k) :: back) a := by
  rcases h with ⟨none, _⟩ | ⟨m, one, read⟩
  · simp at none
  · rcases List.append_eq_singleton_iff.mp one with ⟨rfl, eq⟩ | ⟨_, ⟨⟩⟩
    obtain ⟨rfl, rfl⟩ := List.cons_eq_cons.mp eq
    exact .inr ⟨_, rfl, same a read⟩

/-- Only what is read from the value of a field matters. -/
theorem Hold.member {α β σ : Type} {fields : Fields β σ} {name : String} {shape : Shape α}
    (field : fields.Has name shape) {j k : Json}
    (same : ∀ x, shape.decode j = .ok x → shape.decode k = .ok x) {front back : Members} {a : β}
    (h : fields.Hold (front ++ (name, j) :: back) a) :
    fields.Hold (front ++ (name, k) :: back) a := by
  induction field generalizing front back with
  | here named =>
    obtain ⟨a, b⟩ := a
    rw [Hold, ownMembers_append, otherMembers_append, ownMembers_cons_of_named named,
      otherMembers_cons_of_named named] at h ⊢
    exact ⟨h.1.member same, h.2⟩
  | later foreign more ih =>
    obtain ⟨a, b⟩ := a
    rw [Hold, ownMembers_append, otherMembers_append, ownMembers_cons_of_foreign foreign,
      otherMembers_cons_of_foreign foreign] at h ⊢
    exact ⟨h.1, ih same h.2⟩

end Fields

mutual

/-- Whether what a backend may leave out of a record can be left out, here and below. -/
def Shape.Tolerant : {α : Type} → Shape α → Prop
  | _, .list item => item.Tolerant
  | _, .optional item => item.Tolerant
  | _, .map s _ _ _ => s.Tolerant
  | _, .record record fields =>
    (∀ m ∈ (softFields record).members, fields.Spares m.1 m.2) ∧ fields.Tolerant
  | _, _ => True

def Fields.Tolerant : {α σ : Type} → Fields α σ → Prop
  | _, _, .nil => True
  | _, _, .cons _ _ shape _ rest => shape.Tolerant ∧ rest.Tolerant

end

theorem Fields.Has.tolerant {α β σ : Type} {fields : Fields β σ} {name : String} {shape : Shape α}
    (field : fields.Has name shape) (h : fields.Tolerant) : shape.Tolerant := by
  induction field with
  | here named => exact h.1
  | later foreign more ih => exact ih h.2

namespace Shape.Edit

/-- Only objects and lists are edited. -/
theorem ne_null {α : Type} {s : Shape α} {j k : Json} (edit : s.Edit j k) :
    j ≠ .null ∧ k ≠ .null := by
  induction edit with
  | present inner ih => exact ih
  | mapped inner ih => exact ih
  | _ => exact ⟨nofun, nofun⟩

/-- What is read from an edited list is read item by item. -/
theorem forall₂_item {α : Type} {item : Shape α} {j k : Json}
    (same : ∀ a, item.decode j = .ok a → item.decode k = .ok a) {front back : List Json}
    {l : List α}
    (h : List.Forall₂ (fun j a => item.decode j = .ok a) (front ++ j :: back) l) :
    List.Forall₂ (fun j a => item.decode j = .ok a) (front ++ k :: back) l := by
  induction front generalizing l with
  | nil =>
    obtain _ | ⟨here, later⟩ := h
    exact .cons (same _ here) later
  | cons i front ih =>
    obtain _ | ⟨here, later⟩ := h
    exact .cons here (ih later)

/-- An edit does not change what is read. -/
theorem decode_eq_ok_iff {α : Type} {s : Shape α} {j k : Json} (edit : s.Edit j k)
    (tolerant : s.Tolerant) (a : α) : s.decode j = .ok a ↔ s.decode k = .ok a := by
  induction edit with
  | unknown front back foreign value =>
    rw [decode_object_eq_ok_iff, decode_object_eq_ok_iff, Fields.hold_unknown value _ _ _ foreign]
  | reorder perm =>
    rw [decode_object_eq_ok_iff, decode_object_eq_ok_iff]
    exact ⟨.perm perm, .perm perm.symm⟩
  | spare front back soft fresh =>
    rw [decode_object_eq_ok_iff, decode_object_eq_ok_iff,
      Fields.hold_spare _ _ _ (tolerant.1 _ soft) fresh]
  | member front back field inner ih =>
    rw [decode_object_eq_ok_iff, decode_object_eq_ok_iff]
    have same := ih (field.tolerant tolerant.2)
    exact ⟨.member field fun x => (same x).mp, .member field fun x => (same x).mpr⟩
  | item front back inner ih =>
    rw [decode_array_eq_ok_iff, decode_array_eq_ok_iff]
    have same := ih tolerant
    exact ⟨forall₂_item fun x => (same x).mp, forall₂_item fun x => (same x).mpr⟩
  | present inner ih =>
    obtain ⟨there, after⟩ := inner.ne_null
    rw [decode_optional_of_ne_null there, decode_optional_of_ne_null after]
    exact (bind_eq_ok_iff.trans <| exists_congr fun x =>
      and_congr_left fun _ => ih tolerant x).trans bind_eq_ok_iff.symm
  | mapped inner ih =>
    rw [Shape.decode, Shape.decode, bind_eq_ok_iff, bind_eq_ok_iff]
    exact exists_congr fun x => and_congr_left fun _ => ih tolerant x

end Shape.Edit

/-- Any number of edits, back and forth, does not change what is read. -/
theorem Shape.Tolerant.decode_eq_ok_iff {α : Type} {s : Shape α} (tolerant : s.Tolerant)
    {j k : Json} (edits : Relation.EqvGen s.Edit j k) (a : α) :
    s.decode j = .ok a ↔ s.decode k = .ok a := by
  induction edits with
  | rel j k edit => exact edit.decode_eq_ok_iff tolerant a
  | refl j => exact Iff.rfl
  | symm j k _ ih => exact ih.symm
  | trans j k l _ _ first second => exact first.trans second

/-- What a backend answers with, and all that is found in it. -/
def responseShapes : List (Σ α : Type, Shape α) :=
  [⟨_, Datacenter.shape⟩, ⟨_, Location.shape⟩, ⟨_, Room.shape⟩, ⟨_, Dimensions.shape⟩,
    ⟨_, Row.shape⟩, ⟨_, RoomRack.shape⟩, ⟨_, Rack.shape⟩, ⟨_, RackNode.shape⟩,
    ⟨_, Infrastructure.shape⟩, ⟨_, RackLayout.shape⟩, ⟨_, Equipment.shape⟩, ⟨_, Position.shape⟩,
    ⟨_, EquipmentType.shape⟩, ⟨_, Cpu.shape⟩, ⟨_, Ram.shape⟩, ⟨_, StorageDevice.shape⟩,
    ⟨_, NetworkInterface.shape⟩, ⟨_, DiskGroup.shape⟩, ⟨_, Size.shape⟩]

section

variable {α β σ : Type} {field name : String} {shape : Shape α} {rest : Fields β σ} {value : Json}

theorem decode_optional_eq_none_iff :
    (Shape.optional shape).decode value = .ok none ↔ value = .null := by
  constructor
  · intro h
    by_contra there
    rw [Shape.decode_optional_of_ne_null there] at h
    cases read : shape.decode value <;> rw [read] at h <;> cases h
  · rintro rfl
    rfl

theorem decode_listOrNull_null : (Shape.listOrNull shape).decode .null = .ok [] := rfl

theorem decode_listOrNull_empty : (Shape.listOrNull shape).decode (.array []) = .ok [] := rfl

theorem decode_u32_zero : Shape.u32.decode (.nat 0) = .ok 0 := rfl

theorem decode_f64_zero : Shape.f64.decode (.nat 0) = .ok 0 :=
  congrArg Except.ok (by decide +kernel : doubleOfInt 0 = 0)

theorem decode_f64_float (x : Float) : Shape.f64.decode (.float x) = .ok x := rfl

namespace Fields

theorem spares_required :
    (required field shape rest).Spares name value ↔ name ≠ field ∧ rest.Spares name value := by
  simp [required, Spares, isNamed]

theorem spares_optional :
    (optional field shape rest).Spares name value ↔
      name = field ∧ value = .null ∨ name ≠ field ∧ rest.Spares name value := by
  simp [optional, Spares, isNamed, decode_optional_eq_none_iff]

theorem spares_lenient :
    (lenient field shape rest).Spares name value ↔
      name = field ∧ (Shape.listOrNull shape).decode value = .ok [] ∨
        name ≠ field ∧ rest.Spares name value := by
  simp [lenient, Spares, isNamed]

theorem spares_orElse {a : α} :
    (orElse field shape a rest).Spares name value ↔
      name = field ∧ shape.decode value = .ok a ∨ name ≠ field ∧ rest.Spares name value := by
  simp [orElse, Spares, isNamed]

theorem tolerant_required :
    (required field shape rest).Tolerant ↔ shape.Tolerant ∧ rest.Tolerant := Iff.rfl

theorem tolerant_optional :
    (optional field shape rest).Tolerant ↔ shape.Tolerant ∧ rest.Tolerant := Iff.rfl

theorem tolerant_lenient :
    (lenient field shape rest).Tolerant ↔ shape.Tolerant ∧ rest.Tolerant := Iff.rfl

theorem tolerant_orElse {a : α} :
    (orElse field shape a rest).Tolerant ↔ shape.Tolerant ∧ rest.Tolerant := Iff.rfl

end Fields

end

/-- Each field that may be left out has the value for its absence that its spare members have. -/
theorem tolerant_of_response : ∀ p ∈ responseShapes, p.2.Tolerant := by
  simp [responseShapes, Datacenter.shape, Location.shape, Room.shape, Dimensions.shape, Row.shape,
    RoomRack.shape, Rack.shape, RackNode.shape, Infrastructure.shape, RackLayout.shape,
    Equipment.shape, Position.shape, EquipmentType.shape, Cpu.shape, Ram.shape,
    StorageDevice.shape, NetworkInterface.shape, DiskGroup.shape, Size.shape,
    Shape.Tolerant, Fields.Tolerant, Fields.tolerant_required, Fields.tolerant_optional,
    Fields.tolerant_lenient, Fields.tolerant_orElse,
    softFields, SoftFields.members, Fields.spares_required, Fields.spares_optional,
    Fields.spares_lenient, Fields.spares_orElse,
    decode_listOrNull_null, decode_listOrNull_empty, decode_u32_zero, decode_f64_zero,
    decode_f64_float]

/-- A document that differs by edits of objects, anywhere in it and in either direction, is read as
the same value. -/
theorem edits_unseen {p : Σ α : Type, Shape α} (response : p ∈ responseShapes) {j k : Json}
    (edits : Relation.EqvGen p.2.Edit j k) {a : p.1} (read : p.2.decode j = .ok a) :
    p.2.decode k = .ok a :=
  ((tolerant_of_response p response).decode_eq_ok_iff edits a).mp read

/-- A list is left out of a layout entry, the members are turned round and an identifier is added. -/
theorem edits_unseen_in_layout :
    Infrastructure.shape.decode (.object [("id", .nat 7),
      ("layout", .array [.object [("rack", .string "r")]]), ("name", .string "i")]) =
        .ok ⟨"i", none, [], [⟨"r", [], [], [], []⟩]⟩ := by
  have listed : Infrastructure.shape.Edit
      (.object [("name", .string "i"), ("layout", .array [.object [("rack", .string "r")]])])
      (.object [("name", .string "i"),
        ("layout", .array [.object [("rack", .string "r"), ("nodes", .array [])]])]) :=
    .mapped <| .member [("name", .string "i")] []
      (.later rfl <| .later rfl <| .later rfl <| .here rfl) <|
      .mapped <| .present <| .item [] [] <| .mapped <| .spare [("rack", .string "r")] []
        (by simp [softFields, SoftFields.members]) (by decide)
  have turned : Infrastructure.shape.Edit
      (.object [("name", .string "i"), ("layout", .array [.object [("rack", .string "r")]])])
      (.object [("layout", .array [.object [("rack", .string "r")]]), ("name", .string "i")]) :=
    .mapped <| .reorder (.swap ..)
  have identified : Infrastructure.shape.Edit
      (.object [("layout", .array [.object [("rack", .string "r")]]), ("name", .string "i")])
      (.object [("id", .nat 7), ("layout", .array [.object [("rack", .string "r")]]),
        ("name", .string "i")]) :=
    .mapped <| .unknown [] _ rfl _
  exact edits_unseen (p := ⟨_, Infrastructure.shape⟩) (by simp [responseShapes])
    ((Relation.EqvGen.rel _ _ listed).symm.trans _ _ _ <|
      (Relation.EqvGen.rel _ _ turned).trans _ _ _ (.rel _ _ identified)) rfl

end RackInventory
