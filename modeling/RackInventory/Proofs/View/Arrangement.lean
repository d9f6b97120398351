import Mathlib.Data.List.Nodup
import RackInventory.View.Arrangement

/-!
# What an arrangement knows of one rack

Each operation on an arrangement is described by what it does to the state of one rack: nothing for
a rack that is not known, else whether it is expanded. These states and the order are all there is
to an arrangement, so operations that agree on them agree. The sections of some items are described
by the list of their racks, which is ordered strictly and determined by its members.
-/

namespace RackInventory

def RackOrder.Sorts : RackOrder → List String → Prop
  | .ascending, racks => racks.Pairwise (· < ·)
  | .descending, racks => racks.Pairwise fun a b => b < a

theorem RackOrder.Sorts.nodup {order : RackOrder} {racks : List String}
    (sorted : order.Sorts racks) : racks.Nodup := by
  cases order with
  | ascending =>
    apply List.Pairwise.imp _ sorted
    rintro a b below rfl
    exact Std.lt_irrefl below
  | descending =>
    apply List.Pairwise.imp _ sorted
    rintro a b below rfl
    exact Std.lt_irrefl below

namespace Arrangement

theorem isExpanded?_eq_none_iff {a : Arrangement} {rack : String} :
    a.isExpanded? rack = none ↔ rack ∉ a.known := by
  unfold isExpanded?
  split <;> simp_all

theorem isExpanded?_initial (rack : String) : initial.isExpanded? rack = none :=
  isExpanded?_eq_none_iff.mpr fun h => List.not_mem_nil h

theorem isExpanded?_eq_false_iff {a : Arrangement} {rack : String} :
    a.isExpanded? rack = some false ↔ rack ∈ a.collapsed := by
  constructor
  · intro state
    by_cases known : rack ∈ a.known
    · simpa [isExpanded?, known] using state
    · simp [isExpanded?, known] at state
  · intro collapsed
    simp [isExpanded?, a.collapsed_known rack collapsed, collapsed]

/-- The order and the states of the racks are all there is to an arrangement. -/
theorem eq_of_isExpanded? {a b : Arrangement} (order : a.order = b.order)
    (states : ∀ rack, a.isExpanded? rack = b.isExpanded? rack) : a = b := by
  have known : a.known = b.known := by
    apply OrderedSet.ext_mem
    intro rack
    rw [← not_iff_not, ← isExpanded?_eq_none_iff, ← isExpanded?_eq_none_iff, states]
  have collapsed : a.collapsed = b.collapsed := by
    apply OrderedSet.ext_mem
    intro rack
    rw [← isExpanded?_eq_false_iff, ← isExpanded?_eq_false_iff, states]
  cases a
  cases b
  cases order
  cases known
  cases collapsed
  rfl

theorem known_flip (a : Arrangement) (flipped : String) : (a.flip flipped).known = a.known := by
  unfold flip
  split
  · split <;> rfl
  · rfl

theorem order_flip (a : Arrangement) (rack : String) : (a.flip rack).order = a.order := by
  unfold flip
  split
  · split <;> rfl
  · rfl

/-- A rack that is not known has no state to invert. -/
theorem flip_of_unknown {a : Arrangement} {rack : String} (unknown : rack ∉ a.known) :
    a.flip rack = a :=
  dif_neg unknown

/-- A flip inverts the state of its rack, if the rack has one. -/
theorem isExpanded?_flip (a : Arrangement) (flipped rack : String) :
    (a.flip flipped).isExpanded? rack =
      if rack = flipped then (a.isExpanded? rack).map (!·) else a.isExpanded? rack := by
  by_cases known : flipped ∈ a.known
  · by_cases collapsed : flipped ∈ a.collapsed
    · by_cases same : rack = flipped
      · subst same
        simp [flip, isExpanded?, known, collapsed, OrderedSet.mem_erase]
      · simp [flip, isExpanded?, known, collapsed, OrderedSet.mem_erase, same]
    · by_cases same : rack = flipped
      · subst same
        simp [flip, isExpanded?, known, collapsed, OrderedSet.mem_insert]
      · simp [flip, isExpanded?, known, collapsed, OrderedSet.mem_insert, same]
  · rw [flip_of_unknown known]
    by_cases same : rack = flipped
    · subst same
      rw [if_pos rfl, isExpanded?_eq_none_iff.mpr known]
      rfl
    · rw [if_neg same]

theorem mem_known_showing {a : Arrangement} {racks : List String} {rack : String} :
    rack ∈ (a.showing racks).known ↔ rack ∈ racks :=
  OrderedSet.mem_ofList

/-- A rack that is shown keeps its state, or starts expanded if it had none. -/
theorem isExpanded?_showing (a : Arrangement) (racks : List String) (rack : String) :
    (a.showing racks).isExpanded? rack =
      if rack ∈ racks then some ((a.isExpanded? rack).getD true) else none := by
  by_cases shown : rack ∈ racks
  · have collapsed : rack ∈ (a.showing racks).collapsed ↔ rack ∈ a.collapsed := by
      simp [showing, OrderedSet.mem_iff, OrderedSet.filter, shown]
    rw [isExpanded?, if_pos (mem_known_showing.mpr shown), if_pos shown]
    by_cases known : rack ∈ a.known
    · simp [isExpanded?, known, collapsed]
    · have expanded : rack ∉ a.collapsed := fun h => known (a.collapsed_known rack h)
      simp [isExpanded?, known, collapsed, expanded]
  · rw [if_neg shown]
    exact isExpanded?_eq_none_iff.mpr fun h => shown (mem_known_showing.mp h)

theorem flip_ordered (a : Arrangement) (order : RackOrder) (rack : String) :
    { a with order }.flip rack = { a.flip rack with order } := by
  apply eq_of_isExpanded?
  · exact order_flip { a with order } rack
  · intro other
    exact (isExpanded?_flip { a with order } rack other).trans (isExpanded?_flip a rack other).symm

/-- An arrangement that knows the racks shown need not change. -/
theorem showing_of_known {a : Arrangement} {racks : List String}
    (known : ∀ rack, rack ∈ a.known ↔ rack ∈ racks) : a.showing racks = a := by
  refine eq_of_isExpanded? rfl ?_
  intro rack
  rw [isExpanded?_showing]
  by_cases shown : rack ∈ racks
  · rw [if_pos shown, isExpanded?, if_pos ((known rack).mpr shown)]
    rfl
  · rw [if_neg shown]
    exact (isExpanded?_eq_none_iff.mpr fun h => shown ((known rack).mp h)).symm

/-- A flip may come before or after the racks change, unless the rack comes into sight. -/
theorem showing_flip {a : Arrangement} {rack : String} {racks : List String}
    (known : rack ∈ racks → rack ∈ a.known) :
    (a.flip rack).showing racks = (a.showing racks).flip rack := by
  apply eq_of_isExpanded?
  · rw [order_flip]
    exact order_flip a rack
  · intro other
    simp only [isExpanded?_showing, isExpanded?_flip]
    by_cases shown : other ∈ racks
    · by_cases same : other = rack
      · subst same
        simp [isExpanded?, shown, known shown]
      · simp [same]
    · simp [shown]

/-- One section for each rack of the items, in the order of the arrangement. -/
theorem sections_eq_map (a : Arrangement) (items : List PlacedItem) :
    ∃ racks, a.order.Sorts racks ∧ (∀ rack, rack ∈ racks ↔ rack ∈ items.map (·.rack)) ∧
      a.sections items = racks.map (a.sectionOf items) := by
  have ascending := (OrderedSet.ofList (items.map (·.rack))).ascending
  have members : ∀ rack, rack ∈ (OrderedSet.ofList (items.map (·.rack))).toList ↔
      rack ∈ items.map (·.rack) := fun _ => OrderedSet.mem_ofList
  unfold sections
  cases a.order with
  | ascending => exact ⟨_, ascending, members, rfl⟩
  | descending =>
    refine ⟨_, List.pairwise_reverse.mpr ascending, ?_, List.map_reverse.symm⟩
    intro rack
    exact List.mem_reverse.trans (members rack)

theorem exists_mem_sections {a : Arrangement} {items : List PlacedItem} {rack : String} :
    (∃ s ∈ a.sections items, s.rack = rack) ↔ rack ∈ items.map (·.rack) := by
  obtain ⟨racks, _, members, eq⟩ := a.sections_eq_map items
  rw [← members rack, eq]
  simp [sectionOf]

theorem eq_sectionOf_of_mem {a : Arrangement} {items : List PlacedItem} {s : RackSection}
    (h : s ∈ a.sections items) : s = a.sectionOf items s.rack := by
  obtain ⟨racks, _, _, eq⟩ := a.sections_eq_map items
  rw [eq] at h
  obtain ⟨rack, _, rfl⟩ := List.mem_map.mp h
  rfl

/-- A rack has one section if it has an item, and none otherwise. -/
theorem sections_of_rack (a : Arrangement) (items : List PlacedItem) (rack : String) :
    (a.sections items).filter (·.rack = rack) =
      if rack ∈ items.map (·.rack) then [a.sectionOf items rack] else [] := by
  obtain ⟨racks, sorted, members, eq⟩ := a.sections_eq_map items
  have one : racks.filter (· = rack) = if rack ∈ racks then [rack] else [] := by
    rw [List.filter_eq, sorted.nodup.count]
    split <;> rfl
  have racksOnly : (racks.map (a.sectionOf items)).filter (·.rack = rack) =
      (racks.filter (· = rack)).map (a.sectionOf items) := List.filter_map
  rw [eq, racksOnly, one]
  simp only [← members rack]
  split <;> rfl

/-- In one order the sections of some items have the same racks, whatever is collapsed. -/
theorem sections_of_order {a b : Arrangement} (order : a.order = b.order)
    (items : List PlacedItem) :
    a.sections items = (b.sections items).map fun s => a.sectionOf items s.rack := by
  have racks : (a.sectionOf items ·.rack) ∘ b.sectionOf items = a.sectionOf items := rfl
  unfold sections
  rw [order]
  cases b.order with
  | ascending => simp [racks]
  | descending => simp [racks]

theorem sections_eq_nil_iff {a : Arrangement} {items : List PlacedItem} :
    a.sections items = [] ↔ items = [] := by
  obtain ⟨racks, _, members, eq⟩ := a.sections_eq_map items
  rw [eq, List.map_eq_nil_iff, List.eq_nil_iff_forall_not_mem]
  simp only [members]
  rw [← List.eq_nil_iff_forall_not_mem, List.map_eq_nil_iff]

end Arrangement

end RackInventory
