import RackInventory.Proofs.Filter.Matching

/-!
# The flat list and the layout

An item stands at a spot of a layout: in an entry, under a category, at a place of the list. The
flat list goes through the occupied spots of the layout in the order of reading and takes down what
stands there, so it leaves nothing out and repeats nothing. Two layouts one after the other have
their flat lists one after the other. When every rack has a single entry, the entry can be read off
the flat list again, list by list.

The rack that an item names itself and its slot are not taken down, and nothing is said about them.
-/

namespace RackInventory

/-- Where an item stands in a layout. -/
structure Spot where
  entry : Nat
  category : EquipmentCategory
  place : Nat
deriving DecidableEq

/-- Whether a spot is read before another: by its entry, then its category, then its place. -/
def Spot.Before (a b : Spot) : Prop :=
  a.entry < b.entry ∨ a.entry = b.entry ∧
    (a.category < b.category ∨ a.category = b.category ∧ a.place < b.place)

/-- The item at a spot of a layout, if the spot is occupied. -/
def Infrastructure.itemAt? (i : Infrastructure) (s : Spot) : Option PlacedItem :=
  i.layout[s.entry]?.bind fun l =>
    (l.ofCategory s.category)[s.place]?.map fun e =>
      { category := s.category, name := e.name, rack := l.rack, type := e.type
        position := e.position, tags := e.tags }

theorem Infrastructure.itemAt?_of_entry {i : Infrastructure} {s : Spot} {l : RackLayout}
    (here : i.layout[s.entry]? = some l) :
    i.itemAt? s =
      (l.ofCategory s.category)[s.place]?.map (PlacedItem.ofEquipment l.rack s.category) := by
  rw [itemAt?, here]
  rfl

theorem EquipmentCategory.mem_all (c : EquipmentCategory) : c ∈ all := by
  cases c <;> decide

theorem EquipmentCategory.all_ascending : all.Pairwise (· < ·) := by
  decide

namespace RackLayout

def spots (l : RackLayout) (entry : Nat) : List Spot :=
  EquipmentCategory.all.flatMap fun category =>
    (List.range (l.ofCategory category).length).map (⟨entry, category, ·⟩)

variable {l : RackLayout} {entry : Nat} {s : Spot}

theorem mem_spots :
    s ∈ l.spots entry ↔ s.entry = entry ∧ s.place < (l.ofCategory s.category).length := by
  simp only [spots, List.mem_flatMap, List.mem_map, List.mem_range]
  constructor
  · rintro ⟨category, _, place, bound, rfl⟩
    exact ⟨rfl, bound⟩
  · rintro ⟨rfl, bound⟩
    exact ⟨s.category, s.category.mem_all, s.place, bound, rfl⟩

theorem spots_ascending (l : RackLayout) (entry : Nat) : (l.spots entry).Pairwise Spot.Before := by
  rw [spots, List.pairwise_flatMap]
  constructor
  · intro category _
    rw [List.pairwise_map]
    exact List.pairwise_lt_range.imp fun below => .inr ⟨rfl, .inr ⟨rfl, below⟩⟩
  · apply EquipmentCategory.all_ascending.imp
    intro c d below a ha b hb
    obtain ⟨_, _, rfl⟩ := List.mem_map.mp ha
    obtain ⟨_, _, rfl⟩ := List.mem_map.mp hb
    exact .inr ⟨rfl, .inl below⟩

theorem map_spots {i : Infrastructure} (here : i.layout[entry]? = some l) :
    (l.spots entry).map i.itemAt? = l.items.map some := by
  rw [spots, items, List.map_flatMap, List.map_flatMap]
  apply List.flatMap_congr
  intro category _
  rw [List.map_map, List.map_map]
  apply List.ext_getElem
  · simp
  · intro place bound _
    have here : i.layout[(⟨entry, category, place⟩ : Spot).entry]? = some l := here
    have bound : place < (l.ofCategory category).length := by simpa using bound
    simp [Infrastructure.itemAt?_of_entry here, bound]

/-- The list of a category is what the entry has in that category. -/
theorem filter_category (l : RackLayout) (category : EquipmentCategory) :
    l.items.filter (·.category = category) =
      (l.ofCategory category).map (PlacedItem.ofEquipment l.rack category) := by
  cases category <;>
    simp [items, EquipmentCategory.all, PlacedItem.ofEquipment, List.filter_map, Function.comp_def]

theorem rack_of_mem_items {item : PlacedItem} (h : item ∈ l.items) : item.rack = l.rack := by
  simp only [items, List.mem_flatMap, List.mem_map] at h
  obtain ⟨category, _, e, _, rfl⟩ := h
  rfl

end RackLayout

/-- What the entries of a rack give is what the layout gives for that rack. -/
theorem filter_rack_flatMap {part : RackLayout → List PlacedItem}
    (placed : ∀ l, ∀ item ∈ part l, item.rack = l.rack) (layout : List RackLayout)
    (rack : String) :
    (layout.flatMap part).filter (·.rack = rack) =
      (layout.filter (·.rack = rack)).flatMap part := by
  induction layout with
  | nil => rfl
  | cons l rest ih =>
    rw [List.flatMap_cons, List.filter_append, ih]
    by_cases here : l.rack = rack
    · have all : (part l).filter (·.rack = rack) = part l := by
        rw [List.filter_eq_self]
        intro item mem
        simpa [placed l item mem] using here
      rw [all, List.filter_cons_of_pos (by simpa using here), List.flatMap_cons]
    · have none : (part l).filter (·.rack = rack) = [] := by
        rw [List.filter_eq_nil_iff]
        intro item mem
        simpa [placed l item mem] using here
      rw [none, List.filter_cons_of_neg (by simpa using here), List.nil_append]

namespace Infrastructure

variable {i : Infrastructure} {l : RackLayout}

def spots (i : Infrastructure) : List Spot := i.layout.zipIdx.flatMap fun l => l.1.spots l.2

theorem spots_ascending (i : Infrastructure) : i.spots.Pairwise Spot.Before := by
  have entries : i.layout.zipIdx.Pairwise fun a b => a.2 < b.2 := by
    rw [← List.pairwise_map, List.zipIdx_map_snd]
    exact List.pairwise_lt_range'
  rw [spots, List.pairwise_flatMap]
  constructor
  · intro l _
    exact l.1.spots_ascending l.2
  · apply entries.imp
    intro l m below a ha b hb
    have first := (RackLayout.mem_spots.mp ha).1
    have second := (RackLayout.mem_spots.mp hb).1
    left
    omega

theorem mem_spots {s : Spot} : s ∈ i.spots ↔ (i.itemAt? s).isSome := by
  simp only [spots, List.mem_flatMap, RackLayout.mem_spots, List.mem_zipIdx_iff_getElem?]
  constructor
  · rintro ⟨⟨l, _⟩, here, rfl, bound⟩
    simp [itemAt?_of_entry here, bound]
  · intro occupied
    cases here : i.layout[s.entry]? with
    | none => simp [itemAt?, here] at occupied
    | some l =>
      have bound : s.place < (l.ofCategory s.category).length := by
        simpa [itemAt?_of_entry here] using occupied
      exact ⟨(l, s.entry), here, rfl, bound⟩

/-- The flat list takes down what stands at the occupied spots, one after the other. -/
theorem map_spots (i : Infrastructure) : i.spots.map i.itemAt? = i.items.map some := by
  have entries : i.items = i.layout.zipIdx.flatMap fun l => l.1.items := by
    rw [← List.flatMap_map Prod.fst, List.zipIdx_map_fst, items]
  rw [spots, entries, List.map_flatMap, List.map_flatMap]
  apply List.flatMap_congr
  intro l mem
  exact RackLayout.map_spots (List.mem_zipIdx_iff_getElem?.mp mem)

theorem filter_rack_of_nodup (distinct : (i.layout.map (·.rack)).Nodup) (mem : l ∈ i.layout) :
    i.items.filter (·.rack = l.rack) = l.items := by
  have one : i.layout.filter (·.rack = l.rack) = [l] := by
    have same : i.layout.filter (·.rack = l.rack) = i.layout.filter (· = l) := by
      apply List.filter_congr
      intro m hm
      rw [decide_eq_decide]
      exact ⟨fun e => List.inj_on_of_nodup_map distinct hm mem e, fun e => e ▸ rfl⟩
    rw [same, List.filter_eq, (List.Nodup.of_map _ distinct).count, if_pos mem]
    rfl
  rw [items, filter_rack_flatMap (fun _ _ => RackLayout.rack_of_mem_items), one]
  simp

end Infrastructure

/-- Selecting a rack and a category leaves the items that are in both. -/
theorem Criteria.select_rack_category (items : List PlacedItem) (rack : String)
    (category : EquipmentCategory) :
    (selecting [.rack rack, .category category]).select items =
      (items.filter (·.rack = rack)).filter (·.category = category) := by
  rw [List.filter_filter]
  apply List.filter_congr
  intro item _
  rw [Bool.eq_iff_iff, keeps_selecting]
  simp [PlacedItem.Carries, Selection.dimension, and_comm]

/-- The flat list goes through the occupied spots of the layout in order, takes down each of them
once, and puts together what two layouts give. When racks are named once, each list of the layout is
what is left of the flat list when its rack and its category are selected. -/
theorem Infrastructure.items_of_layout (i : Infrastructure) :
    (∃ spots : List Spot, spots.Pairwise Spot.Before ∧
      (∀ s, s ∈ spots ↔ (i.itemAt? s).isSome) ∧ spots.map i.itemAt? = i.items.map some) ∧
    (∀ j : Infrastructure,
      { i with layout := i.layout ++ j.layout }.items = i.items ++ j.items) ∧
    ((i.layout.map (·.rack)).Nodup → ∀ l ∈ i.layout, ∀ category,
      (i.items.filter (·.rack = l.rack)).filter (·.category = category) =
        (l.ofCategory category).map (PlacedItem.ofEquipment l.rack category) ∧
      (Criteria.selecting [.rack l.rack, .category category]).select i.items =
        (l.ofCategory category).map (PlacedItem.ofEquipment l.rack category)) := by
  refine ⟨⟨i.spots, i.spots_ascending, fun _ => mem_spots, i.map_spots⟩, ?_, ?_⟩
  · intro j
    exact List.flatMap_append
  · intro distinct l mem category
    have list : (i.items.filter (·.rack = l.rack)).filter (·.category = category) =
        (l.ofCategory category).map (PlacedItem.ofEquipment l.rack category) := by
      rw [filter_rack_of_nodup distinct mem, RackLayout.filter_category]
    exact ⟨list, (Criteria.select_rack_category ..).trans list⟩

/-- An item that says it stands in another rack. -/
def Equipment.elsewhere (name : String) : Equipment where
  name := name
  type := ⟨"pdu", none, none, none, none, none, none, [], [], []⟩
  rack := some "R09"
  slot := none
  position := none
  tags := ["power"]

/-- Two racks with items that all name a third one. -/
def Infrastructure.misnamed : Infrastructure where
  name := "mercury"
  description := none
  tags := []
  layout :=
    [⟨"R02", [.elsewhere "cn1"], [], [], [.elsewhere "b", .elsewhere "a"]⟩,
      ⟨"R01", [], [], [], [.elsewhere "c"]⟩]

/-- A list is read back in its order, whatever rack its items name. -/
theorem misnamed_list_read_back :
    (Infrastructure.misnamed.layout.map (·.rack)).Nodup ∧
      ((Infrastructure.misnamed.items.filter (·.rack = "R02")).filter
        (·.category = .misc)).map (·.name) = ["b", "a"] := by
  have distinct : (Infrastructure.misnamed.layout.map (·.rack)).Nodup := by decide
  have list := (Infrastructure.misnamed.items_of_layout.2.2 distinct _ List.mem_cons_self .misc).1
  exact ⟨distinct, congrArg (List.map (·.name)) list⟩

end RackInventory
