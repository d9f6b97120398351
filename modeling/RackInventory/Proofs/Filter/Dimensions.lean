import RackInventory.Proofs.Filter.Facets

/-!
# The dimensions of the criteria, one by one

The criteria of one dimension ask for nothing else. All criteria together keep what each of them
keeps, so they can be applied one after the other, in any order. The values that are selected in
one dimension are alternatives: the dimension keeps what any of them keeps alone.

The text that is looked for is the only value of its dimension. Nothing is said about alternatives
there.
-/

namespace RackInventory

/-- Tests applied one after the other keep what passes them all. -/
theorem foldl_filter_eq {α β : Type} (test : β → α → Bool) (tests : List β) (l : List α) :
    tests.foldl (fun kept b => kept.filter (test b)) l =
      l.filter fun a => tests.all (test · a) := by
  induction tests generalizing l with
  | nil => simp
  | cons b rest ih =>
    rw [List.foldl_cons, ih, List.filter_filter]
    apply List.filter_congr
    intro a _
    rw [List.all_cons, Bool.and_comm]

namespace Criteria

variable {c : Criteria} {d : Dimension} {i : PlacedItem} {items : List PlacedItem}

def only (c : Criteria) : Dimension → Criteria
  | .racks => { empty with racks := c.racks }
  | .equipmentTypes => { empty with equipmentTypes := c.equipmentTypes }
  | .categories => { empty with categories := c.categories }
  | .tags => { empty with tags := c.tags }
  | .equipmentName => { empty with nameQuery := c.nameQuery }

def Selects (c : Criteria) (d : Dimension) : Prop := ∃ s, c.contains s ∧ s.dimension = d

theorem admits_only (c : Criteria) (d e : Dimension) (i : PlacedItem) :
    (c.only d).admits i e = if e = d then c.admits i d else true := by
  cases d <;> cases e <;> rfl

theorem keeps_only (c : Criteria) (d : Dimension) (i : PlacedItem) :
    (c.only d).keeps i = c.admits i d := by
  have every : d ∈ Dimension.all := by cases d <;> decide
  rw [Bool.eq_iff_iff, keeps, List.all_eq_true]
  simp only [admits_only]
  constructor
  · intro all
    simpa using all d every
  · intro here e _
    split
    · exact here
    · rfl

theorem contains_only {s : Selection} :
    (c.only d).contains s ↔ c.contains s ∧ s.dimension = d := by
  have none := not_contains_empty s
  cases s <;> cases d <;> simp_all [only, Selection.dimension]

theorem nameQuery_only (h : c.Selects d) : (c.only d).nameQuery = "" := by
  obtain ⟨s, _, rfl⟩ := h
  cases s <;> rfl

/-- A dimension in which values are selected keeps the items that carry one of them. -/
theorem keeps_only_iff (h : c.Selects d) :
    (c.only d).keeps i = true ↔ ∃ s, c.contains s ∧ s.dimension = d ∧ i.Carries s := by
  rw [keeps_iff_carries, nameQuery_only h]
  simp only [contains_only, ne_eq, not_true, false_implies, and_true]
  constructor
  · intro carried
    obtain ⟨s, selected, here⟩ := h
    obtain ⟨t, ⟨chosen, there⟩, _, carries⟩ := carried s ⟨selected, here⟩
    exact ⟨t, chosen, there, carries⟩
  · rintro ⟨t, chosen, there, carries⟩ s ⟨_, here⟩
    exact ⟨t, ⟨chosen, there⟩, there.trans here.symm, carries⟩

theorem all_admits {order : List Dimension} (every : order.Perm Dimension.all) (i : PlacedItem) :
    order.all (c.admits i) = c.keeps i :=
  every.all_eq

theorem select_only (c : Criteria) (d : Dimension) (items : List PlacedItem) :
    (c.only d).select items = items.filter (c.admits · d) :=
  List.filter_congr fun i _ => c.keeps_only d i

theorem select_in_turn {order : List Dimension} (every : order.Perm Dimension.all) :
    order.foldl (fun kept d => (c.only d).select kept) items = c.select items := by
  simp only [select_only]
  rw [foldl_filter_eq (fun d i => c.admits i d)]
  exact List.filter_congr fun i _ => all_admits every i

theorem places_in_turn {order : List Dimension} (every : order.Perm Dimension.all) :
    order.foldl (fun kept d => kept.filter (· ∈ (c.only d).places items))
      (List.range items.length) = c.places items := by
  rw [foldl_filter_eq (fun d place => decide (place ∈ (c.only d).places items))]
  -- Both lists ascend, so the same members are enough.
  apply OrderedSet.eq_of_mem_iff_of_ascending (List.pairwise_lt_range.filter _)
    (c.places_ascending items)
  intro place
  simp only [List.mem_filter, List.mem_range, List.all_eq_true, decide_eq_true_eq, mem_places,
    keeps_only]
  constructor
  · rintro ⟨bound, kept⟩
    refine ⟨items[place], List.getElem?_eq_getElem bound, ?_⟩
    rw [← all_admits every, List.all_eq_true]
    intro d mem
    obtain ⟨item, here, admitted⟩ := kept d mem
    rw [List.getElem?_eq_getElem bound, Option.some.injEq] at here
    exact here ▸ admitted
  · rintro ⟨item, here, kept⟩
    rw [← all_admits every, List.all_eq_true] at kept
    exact ⟨(List.getElem?_eq_some_iff.mp here).1, fun d mem => ⟨item, here, kept d mem⟩⟩

theorem mem_places_only (h : c.Selects d) {place : Nat} :
    place ∈ (c.only d).places items ↔
      ∃ s, c.contains s ∧ s.dimension = d ∧ place ∈ (selecting [s]).places items := by
  simp only [mem_places, keeps_only_iff h, keeps_selecting_one]
  constructor
  · rintro ⟨item, here, s, selected, dimension, carries⟩
    exact ⟨s, selected, dimension, item, here, carries⟩
  · rintro ⟨s, selected, dimension, item, here, carries⟩
    exact ⟨item, here, s, selected, dimension, carries⟩

theorem places_empty (items : List PlacedItem) : empty.places items = List.range items.length := by
  have all : (items.zipIdx.filter fun i => empty.keeps i.1) = items.zipIdx :=
    List.filter_eq_self.mpr fun _ _ => rfl
  rw [places, all, List.zipIdx_map_snd, List.range_eq_range']

/-- What is kept stands at ascending places. It is what the dimensions keep when they are applied
one after the other in any order. A dimension with selected values keeps the places that one of
these values keeps alone, and empty criteria keep every place. -/
theorem kept_dimension_by_dimension (c : Criteria) (items : List PlacedItem) :
    (c.places items).Pairwise (· < ·) ∧
    (c.places items).map (items[·]?) = (c.select items).map some ∧
    (∀ order : List Dimension, order.Perm Dimension.all →
      order.foldl (fun kept d => (c.only d).select kept) items = c.select items ∧
      order.foldl (fun kept d => kept.filter (· ∈ (c.only d).places items))
        (List.range items.length) = c.places items) ∧
    (∀ d, c.Selects d → ∀ place, place ∈ (c.only d).places items ↔
      ∃ s, c.contains s ∧ s.dimension = d ∧ place ∈ (selecting [s]).places items) ∧
    empty.places items = List.range items.length :=
  ⟨c.places_ascending items, c.map_places items,
    fun _ every => ⟨select_in_turn every, places_in_turn every⟩,
    fun _ selects _ => mem_places_only selects, places_empty items⟩

end Criteria

end RackInventory
