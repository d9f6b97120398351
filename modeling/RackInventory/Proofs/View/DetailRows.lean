import RackInventory.Proofs.View.Searching
import RackInventory.View.Details

/-!
# What is told of an equipment type

The rows are about a fixed sequence of items: six parts that a type has once, then its storage
devices, its interfaces and its disk groups. An item has a row exactly when something is known of
it that leaves a text, and the row then has every text that is known of the item, as it was given.
Texts that are given but empty count as unknown.

How numbers are written is not described here, only that something is written for each.
-/

namespace RackInventory

namespace HasPart

variable {text part inner : String}

theorem whole (text : String) : HasPart text text := ⟨"", "", by simp⟩

theorem empty (text : String) : HasPart text "" := ⟨"", text, by simp⟩

theorem trans (outer : HasPart text part) (inside : HasPart part inner) : HasPart text inner := by
  obtain ⟨a, b, rfl⟩ := outer
  obtain ⟨c, d, rfl⟩ := inside
  exact ⟨a ++ c, d ++ b, by simp only [String.append_assoc]⟩

theorem ne_empty (has : HasPart text part) (some : part ≠ "") : text ≠ "" := by
  obtain ⟨a, b, rfl⟩ := has
  simp [some]

theorem of_mem_intercalate {separator : String} {parts : List String} (mem : part ∈ parts) :
    HasPart (String.intercalate separator parts) part := by
  induction parts with
  | nil => cases mem
  | cons first rest ih =>
    cases rest with
    | nil =>
      rw [List.mem_singleton.mp mem, String.intercalate_singleton]
      exact whole first
    | cons second rest =>
      rw [String.intercalate_cons_cons]
      rcases List.mem_cons.mp mem with rfl | later
      · exact ⟨"", separator ++ String.intercalate separator (second :: rest), by
          simp [String.append_assoc]⟩
      · exact trans ⟨first ++ separator, "", by simp⟩ (ih later)

end HasPart

theorem joinPresent_hasPart {separator part : String} {parts : List String} (mem : part ∈ parts) :
    HasPart (joinPresent separator parts) part := by
  by_cases none : part = ""
  · rw [none]
    exact .empty _
  · exact .of_mem_intercalate (List.mem_filter.mpr ⟨mem, by simpa using none⟩)

/-- A joined text is empty when all its parts are. -/
theorem joinPresent_ne_empty_iff {separator : String} {parts : List String} :
    joinPresent separator parts ≠ "" ↔ ∃ part ∈ parts, part ≠ "" := by
  constructor
  · intro present
    by_contra none
    have all : parts.filter (!·.isEmpty) = [] := by simpa [List.filter_eq_nil_iff] using none
    rw [joinPresent, all] at present
    exact present String.intercalate_nil
  · rintro ⟨part, mem, present⟩
    exact (joinPresent_hasPart mem).ne_empty present

theorem joinPresent_pair_ne_empty_iff {separator a b : String} :
    joinPresent separator [a, b] ≠ "" ↔ a ≠ "" ∨ b ≠ "" := by
  simp [joinPresent_ne_empty_iff]

theorem joinPresent_triple_ne_empty_iff {separator a b c : String} :
    joinPresent separator [a, b, c] ≠ "" ↔ a ≠ "" ∨ b ≠ "" ∨ c ≠ "" := by
  simp [joinPresent_ne_empty_iff]

theorem orEmpty_ne_empty_iff {α : Type} {text : α → String} {o : Option α} :
    orEmpty text o ≠ "" ↔ ∃ a ∈ o, text a ≠ "" := by
  cases o <;> simp [orEmpty]

/-- What always leaves a text leaves one when it is given. -/
theorem orEmpty_ne_empty_iff_isSome {α : Type} {text : α → String} (written : ∀ a, text a ≠ "")
    {o : Option α} : orEmpty text o ≠ "" ↔ o.isSome := by
  cases o <;> simp [orEmpty, written]

/-- Whether a text is given that is not empty. -/
def HasText (text : Option String) : Prop := ∃ s ∈ text, s ≠ ""

/-- Whether an amount is given that is not shown as the empty text. -/
def HasSize (size : Option Size) : Prop := ∃ s ∈ size, s.text ≠ ""

instance (text : Option String) : Decidable (HasText text) :=
  inferInstanceAs (Decidable (∃ s ∈ text, s ≠ ""))

instance (size : Option Size) : Decidable (HasSize size) :=
  inferInstanceAs (Decidable (∃ s ∈ size, s.text ≠ ""))

theorem orEmpty_id_ne_empty_iff {text : Option String} : orEmpty id text ≠ "" ↔ HasText text :=
  orEmpty_ne_empty_iff

theorem orEmpty_text_ne_empty_iff {size : Option Size} :
    orEmpty Size.text size ≠ "" ↔ HasSize size :=
  orEmpty_ne_empty_iff

/-- The text of an amount that is given as a text. -/
def Size.literal? : Size → Option String
  | .bytes _ => none
  | .literal s => some s

theorem orEmpty_of_literal {size : Option Size} {s : String}
    (given : size.bind Size.literal? = some s) : orEmpty Size.text size = s := by
  obtain ⟨amount, rfl, literal⟩ := Option.bind_eq_some_iff.mp given
  cases amount with
  | bytes n => cases literal
  | literal t => exact Option.some.inj literal

theorem bitRateText_ne_empty (n : UInt64) : bitRateText n ≠ "" := by
  simp [bitRateText, Quantity.text]

namespace Details

theorem count_ne_empty_iff {n : Option UInt32} : count n ≠ "" ↔ n.isSome :=
  orEmpty_ne_empty_iff_isSome fun _ => Nat.repr_ne_empty

theorem sizeValue_ne_empty (height : Float) (width : Option Float) :
    sizeValue height width ≠ "" := by
  cases width <;> simp [sizeValue]

inductive Item where
  | model
  | size
  | specs
  | cpu
  | cpuSpecs
  | ram
  | storage (d : StorageDevice)
  | netif (i : NetworkInterface)
  | disks (d : DiskGroup)

/-- The items of a type, in the order in which they are told. -/
def items (t : EquipmentType) : List Item :=
  [.model, .size, .specs, .cpu, .cpuSpecs, .ram] ++ t.storage.map .storage ++
    t.netifs.map .netif ++ t.disks.map .disks

namespace Item

def label : Item → String
  | .model => "Model"
  | .size => "Size"
  | .specs => "Specs"
  | .cpu => "CPU"
  | .cpuSpecs => "CPU specs"
  | .ram => "RAM"
  | .storage _ => "Storage"
  | .netif _ => "Network interface"
  | .disks _ => "Disks"

/-- What is told of an item, if only the empty text. -/
def value (t : EquipmentType) : Item → String
  | .model => orEmpty id t.model
  | .size => orEmpty (sizeValue · t.width) t.height
  | .specs => orEmpty id t.specs
  | .cpu => orEmpty cpuValue t.cpu
  | .cpuSpecs => orEmpty (fun c => orEmpty id c.specs) t.cpu
  | .ram => orEmpty ramValue t.ram
  | .storage d => storageValue d
  | .netif i => interfaceValue i
  | .disks d => diskValue d

/-- Whether something is known of an item that leaves a text. -/
def IsGiven (t : EquipmentType) : Item → Prop
  | .model => HasText t.model
  | .size => t.height.isSome
  | .specs => HasText t.specs
  | .cpu => ∃ c ∈ t.cpu, c.sockets.isSome ∨ c.cores.isSome ∨ HasText c.model
  | .cpuSpecs => ∃ c ∈ t.cpu, HasText c.specs
  | .ram => ∃ r ∈ t.ram, r.dimm.isSome ∨ HasSize r.size
  | .storage d => HasText d.kind ∨ HasText d.model ∨ HasSize d.size
  | .netif i => i.number.isSome ∨ HasText i.kind ∨ i.bandwidth.isSome
  | .disks d => d.number.isSome ∨ HasText d.model ∨ HasText d.kind ∨ HasSize d.size

instance (t : EquipmentType) : (i : Item) → Decidable (i.IsGiven t)
  | .model => inferInstanceAs (Decidable (HasText _))
  | .size => inferInstanceAs (Decidable (Option.isSome _ = true))
  | .specs => inferInstanceAs (Decidable (HasText _))
  | .cpu => inferInstanceAs (Decidable (∃ c ∈ t.cpu, _ ∨ _ ∨ HasText c.model))
  | .cpuSpecs => inferInstanceAs (Decidable (∃ c ∈ t.cpu, HasText c.specs))
  | .ram => inferInstanceAs (Decidable (∃ r ∈ t.ram, _ ∨ HasSize r.size))
  | .storage _ => inferInstanceAs (Decidable (_ ∨ _ ∨ _))
  | .netif _ => inferInstanceAs (Decidable (_ ∨ _ ∨ _))
  | .disks _ => inferInstanceAs (Decidable (_ ∨ _ ∨ _ ∨ _))

/-- The texts of an item: its text fields, and its amount if that is a text. -/
def texts (t : EquipmentType) : Item → List (Option String)
  | .model => [t.model]
  | .size => []
  | .specs => [t.specs]
  | .cpu => [t.cpu.bind (·.model)]
  | .cpuSpecs => [t.cpu.bind (·.specs)]
  | .ram => [t.ram.bind fun r => r.size.bind Size.literal?]
  | .storage d => [d.kind, d.model, d.size.bind Size.literal?]
  | .netif i => [i.kind]
  | .disks d => [d.model, d.kind, d.size.bind Size.literal?]

def row (t : EquipmentType) (i : Item) : Row := (i.label, i.value t)

end Item

theorem cpuValue_ne_empty_iff {c : Cpu} :
    cpuValue c ≠ "" ↔ c.sockets.isSome ∨ c.cores.isSome ∨ HasText c.model := by
  have cores : orEmpty (fun n : UInt32 => "(" ++ toString n ++ " cores)") c.cores ≠ "" ↔
      c.cores.isSome := orEmpty_ne_empty_iff_isSome fun n => by simp
  rw [cpuValue, joinPresent_pair_ne_empty_iff, joinPresent_pair_ne_empty_iff, count_ne_empty_iff,
    orEmpty_id_ne_empty_iff, cores, or_assoc, or_comm (a := HasText c.model)]

theorem ramValue_ne_empty_iff {r : Ram} : ramValue r ≠ "" ↔ r.dimm.isSome ∨ HasSize r.size := by
  rw [ramValue, joinPresent_pair_ne_empty_iff, count_ne_empty_iff, orEmpty_text_ne_empty_iff]

theorem storageValue_ne_empty_iff {d : StorageDevice} :
    storageValue d ≠ "" ↔ HasText d.kind ∨ HasText d.model ∨ HasSize d.size := by
  rw [storageValue, joinPresent_triple_ne_empty_iff, orEmpty_id_ne_empty_iff,
    orEmpty_id_ne_empty_iff, orEmpty_text_ne_empty_iff]

theorem interfaceValue_ne_empty_iff {i : NetworkInterface} :
    interfaceValue i ≠ "" ↔ i.number.isSome ∨ HasText i.kind ∨ i.bandwidth.isSome := by
  rw [interfaceValue, joinPresent_pair_ne_empty_iff, joinPresent_pair_ne_empty_iff,
    count_ne_empty_iff, orEmpty_id_ne_empty_iff, orEmpty_ne_empty_iff_isSome bitRateText_ne_empty]

theorem diskValue_ne_empty_iff {d : DiskGroup} :
    diskValue d ≠ "" ↔ d.number.isSome ∨ HasText d.model ∨ HasText d.kind ∨ HasSize d.size := by
  rw [diskValue, joinPresent_pair_ne_empty_iff, joinPresent_triple_ne_empty_iff,
    count_ne_empty_iff, orEmpty_id_ne_empty_iff, orEmpty_id_ne_empty_iff, orEmpty_text_ne_empty_iff]

variable {t : EquipmentType}

/-- An item has a value exactly when something is known of it. -/
theorem value_ne_empty_iff {i : Item} : i.value t ≠ "" ↔ i.IsGiven t := by
  cases i with
  | model => exact orEmpty_ne_empty_iff
  | size => exact orEmpty_ne_empty_iff_isSome fun height => sizeValue_ne_empty height t.width
  | specs => exact orEmpty_ne_empty_iff
  | cpu =>
    simp only [Item.value, Item.IsGiven, orEmpty_ne_empty_iff, cpuValue_ne_empty_iff]
  | cpuSpecs =>
    simp only [Item.value, Item.IsGiven, orEmpty_ne_empty_iff, HasText, id_eq]
  | ram =>
    simp only [Item.value, Item.IsGiven, orEmpty_ne_empty_iff, ramValue_ne_empty_iff]
  | storage d => exact storageValue_ne_empty_iff
  | netif i => exact interfaceValue_ne_empty_iff
  | disks d => exact diskValue_ne_empty_iff

theorem candidates_eq_map (t : EquipmentType) : candidates t = (items t).map (Item.row t) := by
  simp only [items, List.map_append, List.map_map]
  rfl

theorem rows_eq_map (t : EquipmentType) :
    rows t = ((items t).filter fun i => i.IsGiven t).map (Item.row t) := by
  rw [rows, candidates_eq_map, List.filter_map]
  congr 1
  apply List.filter_congr
  intro i _
  rw [Function.comp_apply, Bool.eq_iff_iff, decide_eq_true_eq, ← value_ne_empty_iff]
  simp [Item.row]

theorem cpuValue_hasPart {c : Cpu} {s : String} (given : c.model = some s) :
    HasPart (cpuValue c) s := by
  have base : HasPart (joinPresent times [count c.sockets, orEmpty id c.model]) s :=
    joinPresent_hasPart (by simp [given, orEmpty])
  exact (joinPresent_hasPart List.mem_cons_self).trans base

/-- Two texts and an amount, joined. -/
theorem joined_hasPart {separator s : String} {a b : Option String} {size : Option Size}
    (mem : some s ∈ [a, b, size.bind Size.literal?]) :
    HasPart (joinPresent separator [orEmpty id a, orEmpty id b, orEmpty Size.text size]) s := by
  simp only [List.mem_cons, List.not_mem_nil, or_false] at mem
  rcases mem with given | given | given
  · exact joinPresent_hasPart (by simp [← given, orEmpty])
  · exact joinPresent_hasPart (by simp [← given, orEmpty])
  · exact joinPresent_hasPart (by simp [orEmpty_of_literal given.symm])

theorem interfaceValue_hasPart {i : NetworkInterface} {s : String} (given : i.kind = some s) :
    HasPart (interfaceValue i) s := by
  have base : HasPart (joinPresent " " [orEmpty id i.kind, orEmpty bitRateText i.bandwidth]) s :=
    joinPresent_hasPart (by simp [given, orEmpty])
  exact (joinPresent_hasPart (List.mem_cons_of_mem _ List.mem_cons_self)).trans base

theorem diskValue_hasPart {d : DiskGroup} {s : String}
    (mem : some s ∈ [d.model, d.kind, d.size.bind Size.literal?]) : HasPart (diskValue d) s :=
  (joinPresent_hasPart (List.mem_cons_of_mem _ List.mem_cons_self)).trans (joined_hasPart mem)

/-- The value of an item has each of its texts. -/
theorem value_hasPart {i : Item} {s : String} (mem : some s ∈ i.texts t) :
    HasPart (i.value t) s := by
  cases i with
  | model =>
    have given : t.model = some s := (List.mem_singleton.mp mem).symm
    rw [Item.value, given]
    exact .whole s
  | size => exact absurd mem List.not_mem_nil
  | specs =>
    have given : t.specs = some s := (List.mem_singleton.mp mem).symm
    rw [Item.value, given]
    exact .whole s
  | cpu =>
    obtain ⟨c, known, given⟩ := Option.bind_eq_some_iff.mp (List.mem_singleton.mp mem).symm
    rw [Item.value, known]
    exact cpuValue_hasPart given
  | cpuSpecs =>
    obtain ⟨c, known, given⟩ := Option.bind_eq_some_iff.mp (List.mem_singleton.mp mem).symm
    rw [Item.value, known, orEmpty, given]
    exact .whole s
  | ram =>
    obtain ⟨r, known, given⟩ := Option.bind_eq_some_iff.mp (List.mem_singleton.mp mem).symm
    rw [Item.value, known]
    exact joinPresent_hasPart (by simp [orEmpty_of_literal given])
  | storage d => exact joined_hasPart mem
  | netif i => exact interfaceValue_hasPart (List.mem_singleton.mp mem).symm
  | disks d => exact diskValue_hasPart mem

/-- The rows are those of the items of which something is known, in order. No value is empty, and
every text that is given and not empty is in the row of its item as it was given. The identifier
stands above the rows. -/
theorem rows_of_given (t : EquipmentType) :
    rows t = ((items t).filter fun i => i.IsGiven t).map (Item.row t) ∧
    (∀ r ∈ rows t, r.2 ≠ "") ∧
    (∀ i ∈ items t, ∀ s, some s ∈ i.texts t → s ≠ "" →
      i.row t ∈ rows t ∧ HasPart (i.value t) s) ∧
    ∃ rest, text t = t.id ++ "\n" ++ rest := by
  refine ⟨rows_eq_map t, ?_, ?_, _, rfl⟩
  · intro r mem
    simpa using (List.mem_filter.mp mem).2
  · intro i mem s given present
    have part := value_hasPart given
    refine ⟨?_, part⟩
    rw [rows_eq_map]
    exact List.mem_map_of_mem (List.mem_filter.mpr
      ⟨mem, decide_eq_true (value_ne_empty_iff.mp (part.ne_empty present))⟩)

/-- Processors of which only an empty model is known have no row. -/
example : rows ⟨"pdu", none, none, none, none, some ⟨none, some "", none, none⟩, none, [], [], []⟩ =
    [] := by
  decide

end Details

end RackInventory
