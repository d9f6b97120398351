import RackInventory.Filter.Facets
import RackInventory.Proofs.Filter.Matching

/-!
# Facets and criteria agree

A value is offered exactly when some item carries it, which is to say exactly when selecting the
value alone leaves something to show. Selecting all that is offered in one dimension hides
nothing, and the offered racks divide the items among them. For tags neither holds: an item can
have none or several.
-/

namespace RackInventory

theorem mem_distinct {α : Type} [DecidableEq α] {l : List α} {a : α} : a ∈ distinct l ↔ a ∈ l := by
  induction l with
  | nil => simp [distinct]
  | cons b rest ih =>
    by_cases same : a = b
    · simp [distinct, same]
    · simp [distinct, same, ih]

theorem nodup_distinct {α : Type} [DecidableEq α] (l : List α) : (distinct l).Nodup := by
  induction l with
  | nil => exact List.nodup_nil
  | cons b rest ih =>
    have fresh : b ∉ (distinct rest).filter (· ≠ b) := by simp
    exact List.nodup_cons.mpr ⟨fresh, ih.filter _⟩

namespace Facets

def Offers (f : Facets) : Selection → Prop
  | .rack r => r ∈ f.racks
  | .equipmentType t => t ∈ f.equipmentTypes
  | .category k => k ∈ f.categories
  | .tag t => t ∈ f.tags

variable {items : List PlacedItem}

theorem offers_iff_carried {s : Selection} :
    (ofItems items).Offers s ↔ ∃ i ∈ items, i.Carries s := by
  cases s with
  | rack r => exact mem_distinct.trans List.mem_map
  | equipmentType t => exact mem_distinct.trans List.mem_map
  | category k => exact mem_distinct.trans List.mem_map
  | tag t => exact mem_distinct.trans List.mem_flatMap

end Facets

namespace Criteria

variable {items : List PlacedItem}

theorem keeps_selecting_one {s : Selection} {i : PlacedItem} :
    (selecting [s]).keeps i = true ↔ i.Carries s := by
  rw [keeps_selecting]
  simp

theorem mem_select {c : Criteria} {i : PlacedItem} :
    i ∈ c.select items ↔ i ∈ items ∧ c.keeps i = true :=
  List.mem_filter

/-- A facet that is offered leaves something to show, and one that does is offered. -/
theorem select_ne_nil_iff {s : Selection} :
    (selecting [s]).select items ≠ [] ↔ (Facets.ofItems items).Offers s := by
  rw [Facets.offers_iff_carried]
  constructor
  · intro shown
    obtain ⟨i, mem⟩ := List.exists_mem_of_ne_nil _ shown
    exact ⟨i, (mem_select.mp mem).1, keeps_selecting_one.mp (mem_select.mp mem).2⟩
  · rintro ⟨i, mem, carried⟩
    exact List.ne_nil_of_mem (mem_select.mpr ⟨mem, keeps_selecting_one.mpr carried⟩)

/-- Selecting, in one dimension, a value of every item hides no item. -/
theorem select_eq_self {α : Type} (value : α → Selection) (field : PlacedItem → α)
    {dimension : Dimension} (one : ∀ a, (value a).dimension = dimension)
    (carried : ∀ i : PlacedItem, i.Carries (value (field i))) {values : List α}
    (offered : ∀ i ∈ items, field i ∈ values) :
    (selecting (values.map value)).select items = items := by
  rw [select, List.filter_eq_self]
  intro i mem
  rw [keeps_selecting]
  intro s selected
  obtain ⟨a, _, rfl⟩ := List.mem_map.mp selected
  exact ⟨value (field i), List.mem_map_of_mem (offered i mem), (one _).trans (one a).symm,
    carried i⟩

theorem select_racks (items : List PlacedItem) :
    (selecting ((Facets.ofItems items).racks.map .rack)).select items = items :=
  select_eq_self .rack (·.rack) (fun _ => rfl) (fun _ => rfl) fun _ mem =>
    mem_distinct.mpr (List.mem_map_of_mem mem)

theorem select_equipmentTypes (items : List PlacedItem) :
    (selecting ((Facets.ofItems items).equipmentTypes.map .equipmentType)).select items = items :=
  select_eq_self .equipmentType (·.typeId) (fun _ => rfl) (fun _ => rfl) fun _ mem =>
    mem_distinct.mpr (List.mem_map_of_mem mem)

theorem select_categories (items : List PlacedItem) :
    (selecting ((Facets.ofItems items).categories.map .category)).select items = items :=
  select_eq_self .category (·.category) (fun _ => rfl) (fun _ => rfl) fun _ mem =>
    mem_distinct.mpr (List.mem_map_of_mem mem)

theorem select_rack (items : List PlacedItem) (rack : String) :
    (selecting [.rack rack]).select items = items.filter (·.rack = rack) := by
  apply List.filter_congr
  intro i _
  rw [Bool.eq_iff_iff, keeps_selecting_one, decide_eq_true_eq]
  rfl

theorem disjoint_select_rack {r q : String} (different : r ≠ q) :
    ((selecting [.rack r]).select items).Disjoint ((selecting [.rack q]).select items) := by
  intro i left right
  have inR : i.rack = r := keeps_selecting_one.mp (mem_select.mp left).2
  have inQ : i.rack = q := keeps_selecting_one.mp (mem_select.mp right).2
  exact different (inR.symm.trans inQ)

theorem flatMap_select_rack_perm (items : List PlacedItem) :
    ((Facets.ofItems items).racks.flatMap fun r => (selecting [.rack r]).select items).Perm
      items := by
  simp only [select_rack]
  exact flatMap_filter_perm (nodup_distinct _) fun _ mem =>
    mem_distinct.mpr (List.mem_map_of_mem mem)

end Criteria

end RackInventory
