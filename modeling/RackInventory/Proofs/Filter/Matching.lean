import Mathlib.Data.List.Nodup
import RackInventory.Filter.Matching
import RackInventory.Proofs.Filter.Changes

/-!
# Which items are kept

An item is kept when each part of the criteria that asks for something is satisfied. For the four
sets this can be said for all of them at once: if a value is selected, the item carries a selected
value of the same dimension. The items of each group of a list, put together, are the items.
-/

namespace RackInventory

namespace OrderedSet

theorem admits_iff {α : Type} [LT α] [DecidableEq α] {s : OrderedSet α} {a : α} :
    s.admits a = true ↔ (s ≠ .empty → a ∈ s) := by
  rw [admits, Bool.or_eq_true, isEmpty_iff, decide_eq_true_eq, ← Classical.or_iff_not_imp_left]

theorem ne_empty_iff {α : Type} [LT α] {s : OrderedSet α} : s ≠ .empty ↔ ∃ a, a ∈ s := by
  rw [Ne, ← isEmpty_iff, isEmpty, List.isEmpty_iff]
  constructor
  · exact List.exists_mem_of_ne_nil _
  · rintro ⟨a, mem⟩
    exact List.ne_nil_of_mem mem

end OrderedSet

def PlacedItem.Carries (i : PlacedItem) : Selection → Prop
  | .rack r => i.rack = r
  | .equipmentType t => i.typeId = t
  | .category k => i.category = k
  | .tag t => t ∈ i.tags

namespace Criteria

theorem keeps_iff {c : Criteria} {i : PlacedItem} :
    c.keeps i = true ↔
      (c.racks ≠ .empty → i.rack ∈ c.racks) ∧
      (c.equipmentTypes ≠ .empty → i.typeId ∈ c.equipmentTypes) ∧
      (c.categories ≠ .empty → i.category ∈ c.categories) ∧
      (c.tags ≠ .empty → ∃ tag ∈ i.tags, tag ∈ c.tags) ∧
      (c.nameQuery ≠ "" → containsIgnoringCase i.name c.nameQuery = true) := by
  have tags : (c.tags.isEmpty || i.tags.any (· ∈ c.tags)) = true ↔
      (c.tags ≠ .empty → ∃ tag ∈ i.tags, tag ∈ c.tags) := by
    rw [Bool.or_eq_true, OrderedSet.isEmpty_iff, List.any_eq_true, Classical.or_iff_not_imp_left]
    simp only [decide_eq_true_eq]
  have name : (c.nameQuery.isEmpty || containsIgnoringCase i.name c.nameQuery) = true ↔
      (c.nameQuery ≠ "" → containsIgnoringCase i.name c.nameQuery = true) := by
    rw [Bool.or_eq_true, String.isEmpty_iff, Classical.or_iff_not_imp_left]
  simp only [keeps, Dimension.all, List.all_cons, List.all_nil, Bool.and_true, Bool.and_eq_true,
    admits, OrderedSet.admits_iff, tags, name]

/-- One rule for the four sets: with a selected value goes one that the item carries. -/
theorem keeps_iff_carries {c : Criteria} {i : PlacedItem} :
    c.keeps i = true ↔
      (∀ s, c.contains s → ∃ t, c.contains t ∧ t.dimension = s.dimension ∧ i.Carries t) ∧
      (c.nameQuery ≠ "" → containsIgnoringCase i.name c.nameQuery = true) := by
  rw [keeps_iff]
  constructor
  · rintro ⟨racks, types, categories, tags, name⟩
    refine ⟨?_, name⟩
    intro s selected
    cases s with
    | rack r =>
      have mem := racks (OrderedSet.ne_empty_iff.mpr ⟨r, contains_rack.mp selected⟩)
      exact ⟨.rack i.rack, contains_rack.mpr mem, rfl, rfl⟩
    | equipmentType t =>
      have mem := types (OrderedSet.ne_empty_iff.mpr ⟨t, contains_equipmentType.mp selected⟩)
      exact ⟨.equipmentType i.typeId, contains_equipmentType.mpr mem, rfl, rfl⟩
    | category k =>
      have mem := categories (OrderedSet.ne_empty_iff.mpr ⟨k, contains_category.mp selected⟩)
      exact ⟨.category i.category, contains_category.mpr mem, rfl, rfl⟩
    | tag t =>
      obtain ⟨tag, carried, mem⟩ :=
        tags (OrderedSet.ne_empty_iff.mpr ⟨t, contains_tag.mp selected⟩)
      exact ⟨.tag tag, contains_tag.mpr mem, rfl, carried⟩
  · rintro ⟨carried, name⟩
    refine ⟨?_, ?_, ?_, ?_, name⟩
    · intro asked
      obtain ⟨r, mem⟩ := OrderedSet.ne_empty_iff.mp asked
      obtain ⟨t, selected, dimension, here⟩ := carried (.rack r) (contains_rack.mpr mem)
      cases t with
      | rack r => exact here ▸ contains_rack.mp selected
      | _ => cases dimension
    · intro asked
      obtain ⟨t, mem⟩ := OrderedSet.ne_empty_iff.mp asked
      obtain ⟨t, selected, dimension, here⟩ :=
        carried (.equipmentType t) (contains_equipmentType.mpr mem)
      cases t with
      | equipmentType t => exact here ▸ contains_equipmentType.mp selected
      | _ => cases dimension
    · intro asked
      obtain ⟨k, mem⟩ := OrderedSet.ne_empty_iff.mp asked
      obtain ⟨t, selected, dimension, here⟩ := carried (.category k) (contains_category.mpr mem)
      cases t with
      | category k => exact here ▸ contains_category.mp selected
      | _ => cases dimension
    · intro asked
      obtain ⟨t, mem⟩ := OrderedSet.ne_empty_iff.mp asked
      obtain ⟨t, selected, dimension, here⟩ := carried (.tag t) (contains_tag.mpr mem)
      cases t with
      | tag t => exact ⟨t, here, contains_tag.mp selected⟩
      | _ => cases dimension

/-- The criteria in which some values are selected and no text is looked for. -/
def selecting (selections : List Selection) : Criteria :=
  selections.foldl (fun c s => (c.add s).2) empty

theorem contains_add {c : Criteria} {s t : Selection} :
    (c.add s).2.contains t ↔ t = s ∨ c.contains t := by
  by_cases selected : c.contains s
  · rw [add, if_pos selected]
    constructor
    · exact .inr
    · rintro (rfl | h)
      · exact selected
      · exact h
  · rw [add, if_neg selected]
    exact contains_insert

theorem nameQuery_add (c : Criteria) (s : Selection) : (c.add s).2.nameQuery = c.nameQuery := by
  unfold add
  split
  · rfl
  · exact c.nameQuery_insert s

theorem contains_selecting {selections : List Selection} {t : Selection} :
    (selecting selections).contains t ↔ t ∈ selections := by
  have added : ∀ c : Criteria, (selections.foldl (fun c s => (c.add s).2) c).contains t ↔
      t ∈ selections ∨ c.contains t := by
    induction selections with
    | nil => simp
    | cons s rest ih =>
      intro c
      rw [List.foldl_cons, ih, contains_add, List.mem_cons, or_left_comm, or_assoc]
  rw [selecting, added, or_iff_left (not_contains_empty t)]

theorem nameQuery_selecting (selections : List Selection) :
    (selecting selections).nameQuery = "" := by
  have kept : ∀ c : Criteria,
      (selections.foldl (fun c s => (c.add s).2) c).nameQuery = c.nameQuery := by
    induction selections with
    | nil => exact fun _ => rfl
    | cons s rest ih =>
      intro c
      rw [List.foldl_cons, ih, nameQuery_add]
  exact kept empty

theorem keeps_selecting {selections : List Selection} {i : PlacedItem} :
    (selecting selections).keeps i = true ↔
      ∀ s ∈ selections, ∃ t ∈ selections, t.dimension = s.dimension ∧ i.Carries t := by
  rw [keeps_iff_carries]
  simp only [contains_selecting, nameQuery_selecting, ne_eq, not_true, false_implies, and_true]

end Criteria

namespace Criteria

theorem places_ascending (c : Criteria) (items : List PlacedItem) :
    (c.places items).Pairwise (· < ·) := by
  have all : (items.zipIdx.map Prod.snd).Pairwise (· < ·) := by
    rw [List.zipIdx_map_snd]
    exact List.pairwise_lt_range'
  exact all.sublist (List.Sublist.map Prod.snd List.filter_sublist)

theorem mem_places {c : Criteria} {items : List PlacedItem} {place : Nat} :
    place ∈ c.places items ↔ ∃ item, items[place]? = some item ∧ c.keeps item = true := by
  simp only [places, List.mem_map, List.mem_filter, List.mem_zipIdx_iff_getElem?]
  constructor
  · rintro ⟨⟨item, _⟩, ⟨here, kept⟩, rfl⟩
    exact ⟨item, here, kept⟩
  · rintro ⟨item, here, kept⟩
    exact ⟨(item, place), ⟨here, kept⟩, rfl⟩

/-- What stands at the places that the criteria keep is what they keep. -/
theorem map_places (c : Criteria) (items : List PlacedItem) :
    (c.places items).map (items[·]?) = (c.select items).map some := by
  have here : ∀ i ∈ items.zipIdx.filter (fun i => c.keeps i.1), items[i.2]? = some i.1 :=
    fun _ h => List.mem_zipIdx_iff_getElem?.mp (List.mem_filter.mp h).1
  calc (c.places items).map (items[·]?)
      = (items.zipIdx.filter fun i => c.keeps i.1).map fun i => items[i.2]? := List.map_map
    _ = (items.zipIdx.filter fun i => c.keeps i.1).map fun i => some i.1 := List.map_congr_left here
    _ = ((items.zipIdx.map Prod.fst).filter c.keeps).map some := by
        rw [List.filter_map, List.map_map]
        rfl
    _ = (c.select items).map some := by rw [List.zipIdx_map_fst, select]

end Criteria

/-- Grouping by distinct keys that cover all items loses nothing and repeats nothing. -/
theorem flatMap_filter_perm {α κ : Type} [DecidableEq κ] {key : α → κ} {keys : List κ}
    {items : List α} (nodup : keys.Nodup) (covered : ∀ item ∈ items, key item ∈ keys) :
    (keys.flatMap fun k => items.filter (key · = k)).Perm items := by
  induction keys generalizing items with
  | nil =>
    have none : items = [] :=
      List.eq_nil_iff_forall_not_mem.mpr fun item mem => List.not_mem_nil (covered item mem)
    rw [none]
    exact .nil
  | cons k rest ih =>
    obtain ⟨fresh, nodup⟩ := List.nodup_cons.mp nodup
    let others := items.filter fun item => !decide (key item = k)
    have later : ∀ l ∈ rest, items.filter (key · = l) = others.filter (key · = l) := by
      intro l hl
      rw [List.filter_filter]
      apply List.filter_congr
      intro item _
      by_cases here : key item = l
      · have different : key item ≠ k := fun e => fresh (e ▸ here ▸ hl)
        simp [here, here ▸ different]
      · simp [here]
    have remaining : ∀ item ∈ others, key item ∈ rest := by
      intro item mem
      obtain ⟨mem, different⟩ := List.mem_filter.mp mem
      rcases List.mem_cons.mp (covered item mem) with e | e
      · simp [e] at different
      · exact e
    rw [List.flatMap_cons, List.flatMap_congr later]
    exact ((ih nodup remaining).append_left _).trans (List.filter_append_perm ..)

end RackInventory
