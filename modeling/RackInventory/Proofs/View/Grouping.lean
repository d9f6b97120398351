import Mathlib.Algebra.GroupWithZero.Nat
import Mathlib.Data.List.Induction
import RackInventory.Proofs.Filter.Facets
import RackInventory.Proofs.View.Layout

/-!
# Grouping by rack

The sections of any items are a partition of the items by rack, under any arrangement, whether or
not it knows the racks of the items. The racks come in strict order, each section has the items of
its rack in their order, and every place of the list is in one section. Grouping can be done in one
pass: each item goes to the end of the section of its rack, which is opened in its place for the
first item. The descending sections are the ascending ones from the last to the first.

Racks that are known but have no item are not in the sections. How a rack came to be collapsed is
not asked.
-/

namespace RackInventory

def placesIn (items : List PlacedItem) (rack : String) : List Nat :=
  (items.zipIdx.filter (·.1.rack = rack)).map (·.2)

/-- These are the places that a selection of the rack alone keeps. -/
theorem placesIn_eq (items : List PlacedItem) (rack : String) :
    placesIn items rack = (Criteria.selecting [.rack rack]).places items := by
  rw [placesIn, Criteria.places]
  congr 1
  apply List.filter_congr
  intro i _
  rw [Bool.eq_iff_iff, decide_eq_true_eq, Criteria.keeps_selecting_one]
  rfl

theorem placesIn_ascending (items : List PlacedItem) (rack : String) :
    (placesIn items rack).Pairwise (· < ·) := by
  rw [placesIn_eq]
  exact Criteria.places_ascending _ _

theorem map_placesIn (items : List PlacedItem) (rack : String) :
    (placesIn items rack).map (items[·]?) = (items.filter (·.rack = rack)).map some := by
  rw [placesIn_eq, Criteria.map_places, Criteria.select_rack]

/-- Racks that are distinct and cover all items divide the places among them. -/
theorem flatMap_placesIn_perm {racks : List String} {items : List PlacedItem} (nodup : racks.Nodup)
    (covered : ∀ item ∈ items, item.rack ∈ racks) :
    (racks.flatMap (placesIn items)).Perm (List.range items.length) := by
  have labelled : (racks.flatMap fun rack => items.zipIdx.filter (·.1.rack = rack)).Perm
      items.zipIdx :=
    flatMap_filter_perm nodup fun i mem => covered i.1 (List.fst_mem_of_mem_zipIdx mem)
  have places := labelled.map Prod.snd
  rwa [List.map_flatMap, List.zipIdx_map_snd, ← List.range_eq_range'] at places

namespace Arrangement

variable {a : Arrangement} {items : List PlacedItem} {item : PlacedItem}

/-- The ascending sections after one more item: it goes to the end of the section of its rack, or
opens one. -/
def withItem (a : Arrangement) (item : PlacedItem) : List RackSection → List RackSection
  | [] => [⟨item.rack, (a.isExpanded? item.rack).getD true, [item]⟩]
  | s :: rest =>
    if item.rack < s.rack then
      ⟨item.rack, (a.isExpanded? item.rack).getD true, [item]⟩ :: s :: rest
    else if s.rack < item.rack then s :: a.withItem item rest
    else { s with items := s.items ++ [item] } :: rest

/-- The section of another rack does not change. -/
theorem sectionOf_concat_of_ne {rack : String} (other : rack ≠ item.rack) :
    a.sectionOf (items ++ [item]) rack = a.sectionOf items rack := by
  simp [sectionOf, List.filter_append, other.symm]

theorem sectionOf_concat_self :
    a.sectionOf (items ++ [item]) item.rack =
      { a.sectionOf items item.rack with
        items := (a.sectionOf items item.rack).items ++ [item] } := by
  simp [sectionOf, List.filter_append]

/-- A rack without items is opened. -/
theorem sectionOf_concat_of_absent (absent : items.filter (·.rack = item.rack) = []) :
    a.sectionOf (items ++ [item]) item.rack =
      ⟨item.rack, (a.isExpanded? item.rack).getD true, [item]⟩ := by
  rw [sectionOf_concat_self]
  simp [sectionOf, absent]

theorem map_sectionOf_concat {racks : List String} (others : ∀ rack ∈ racks, rack ≠ item.rack) :
    racks.map (a.sectionOf (items ++ [item])) = racks.map (a.sectionOf items) :=
  List.map_congr_left fun rack mem => sectionOf_concat_of_ne (others rack mem)

/-- One more item, seen on the racks that are still to be compared with its own. -/
theorem map_insertAscending {racks : List String} (ascending : racks.Pairwise (· < ·))
    (absent : item.rack ∉ racks → items.filter (·.rack = item.rack) = []) :
    (OrderedSet.insertAscending item.rack racks).map (a.sectionOf (items ++ [item])) =
      a.withItem item (racks.map (a.sectionOf items)) := by
  induction racks with
  | nil =>
    have opened := sectionOf_concat_of_absent (a := a) (absent List.not_mem_nil)
    simp [OrderedSet.insertAscending, withItem, opened]
  | cons rack rest ih =>
    obtain ⟨below, tail⟩ := List.pairwise_cons.mp ascending
    by_cases before : item.rack < rack
    · -- The racks ascend, so the rack of the item is not among them.
      have others : ∀ r ∈ rack :: rest, r ≠ item.rack := by
        rintro r mem rfl
        rcases List.mem_cons.mp mem with same | later
        · exact Std.lt_irrefl (same ▸ before)
        · exact Std.lt_irrefl (Std.lt_trans before (below _ later))
      have opened := sectionOf_concat_of_absent (a := a) (absent fun mem => others _ mem rfl)
      rw [OrderedSet.insertAscending, if_pos before, List.map_cons, map_sectionOf_concat others,
        opened, List.map_cons, withItem]
      exact (if_pos before).symm
    · by_cases after : rack < item.rack
      · have other : rack ≠ item.rack := fun same => before (same ▸ after)
        have later := ih tail fun missing =>
          absent (List.not_mem_cons_of_ne_of_not_mem other.symm missing)
        rw [OrderedSet.insertAscending, if_neg before, if_pos after, List.map_cons, later,
          sectionOf_concat_of_ne other, List.map_cons, withItem]
        exact ((if_neg before).trans (if_pos after)).symm
      · obtain rfl : item.rack = rack := OrderedSet.eq_of_not_lt before after
        have others : ∀ r ∈ rest, r ≠ item.rack := by
          rintro r mem rfl
          exact Std.lt_irrefl (below _ mem)
        rw [OrderedSet.insertAscending, if_neg before, if_neg after, List.map_cons,
          map_sectionOf_concat others, sectionOf_concat_self, List.map_cons, withItem]
        exact ((if_neg before).trans (if_neg after)).symm

theorem sections_ascending (a : Arrangement) (items : List PlacedItem) :
    { a with order := .ascending }.sections items =
      (OrderedSet.ofList (items.map (·.rack))).toList.map (a.sectionOf items) := rfl

theorem sections_concat (a : Arrangement) (items : List PlacedItem) (item : PlacedItem) :
    { a with order := .ascending }.sections (items ++ [item]) =
      a.withItem item ({ a with order := .ascending }.sections items) := by
  have racks : (OrderedSet.ofList ((items ++ [item]).map (·.rack))).toList =
      OrderedSet.insertAscending item.rack (OrderedSet.ofList (items.map (·.rack))).toList := by
    rw [List.map_append, OrderedSet.ofList, List.foldl_append]
    rfl
  rw [sections_ascending, sections_ascending, racks]
  apply map_insertAscending (OrderedSet.ascending _)
  intro missing
  rw [List.filter_eq_nil_iff]
  intro other mem same
  have same : other.rack = item.rack := of_decide_eq_true same
  exact missing (OrderedSet.mem_ofList.mpr (same ▸ List.mem_map_of_mem mem))

/-- The sections are built up item by item. -/
theorem foldl_withItem (a : Arrangement) (items : List PlacedItem) :
    items.foldl (fun sections item => a.withItem item sections) [] =
      { a with order := .ascending }.sections items := by
  induction items using List.reverseRecOn with
  | nil => rfl
  | append_singleton items item ih =>
    rw [List.foldl_append, ih, sections_concat]
    rfl

/-- The sections of some items as a partition of the items that keeps their order. -/
structure StablePartition (a : Arrangement) (items : List PlacedItem) : Prop where
  distinct : ((a.sections items).map (·.rack)).Nodup
  ordered : ((a.sections items).map (·.rack)).Pairwise a.order.Before
  racks : ∀ rack, rack ∈ (a.sections items).map (·.rack) ↔ ∃ item ∈ items, item.rack = rack
  nonempty : ∀ s ∈ a.sections items, s.items ≠ []
  content : ∀ s ∈ a.sections items, s.items = items.filter (·.rack = s.rack)
  ascending : ∀ s ∈ a.sections items, (placesIn items s.rack).Pairwise (· < ·)
  atPlaces : ∀ s ∈ a.sections items,
    (placesIn items s.rack).map (items[·]?) = s.items.map some
  places : ((a.sections items).flatMap fun s => placesIn items s.rack).Perm
    (List.range items.length)
  sizes : ((a.sections items).map (·.items.length)).sum = items.length
  states : ∀ s ∈ a.sections items, s.expanded = (a.isExpanded? s.rack).getD true

theorem stablePartition (a : Arrangement) (items : List PlacedItem) : a.StablePartition items := by
  obtain ⟨racks, sorted, members, eq⟩ := a.sections_eq_map items
  have names : (a.sections items).map (·.rack) = racks := by
    rw [eq, List.map_map]
    exact List.map_id racks
  have covered : ∀ item ∈ items, item.rack ∈ racks := fun item mem =>
    (members _).mpr (List.mem_map_of_mem mem)
  have content : ∀ s ∈ a.sections items, s.items = items.filter (·.rack = s.rack) := fun s mem =>
    congrArg RackSection.items (eq_sectionOf_of_mem mem)
  refine ⟨?_, ?_, ?_, ?_, content, fun s _ => placesIn_ascending items s.rack, ?_, ?_, ?_, ?_⟩
  · rw [names]
    exact sorted.nodup
  · rw [names]
    exact RackOrder.sorts_iff.mp sorted
  · intro rack
    rw [names, members, List.mem_map]
  · intro s mem empty
    obtain ⟨item, here, rack⟩ := List.mem_map.mp (exists_mem_sections.mp ⟨s, mem, rfl⟩)
    rw [content s mem, List.filter_eq_nil_iff] at empty
    exact empty item here (decide_eq_true rack)
  · intro s mem
    rw [map_placesIn, content s mem]
  · rw [eq, List.flatMap_map]
    exact flatMap_placesIn_perm sorted.nodup covered
  · have whole : ((a.sections items).flatMap (·.items)).Perm items := by
      rw [eq, List.flatMap_map]
      exact flatMap_filter_perm sorted.nodup covered
    rw [← whole.length_eq, List.length_flatMap]
  · intro s mem
    exact congrArg RackSection.expanded (eq_sectionOf_of_mem mem)

/-- The sections of any items are a partition of the items by rack in which their order is kept.
They can be built up item by item, and in descending order they are the same ones backwards. -/
theorem sections_stable (a : Arrangement) (items : List PlacedItem) :
    a.StablePartition items ∧
    { a with order := .ascending }.sections items =
      items.foldl (fun sections item => a.withItem item sections) [] ∧
    { a with order := .descending }.sections items =
      ({ a with order := .ascending }.sections items).reverse :=
  ⟨a.stablePartition items, (a.foldl_withItem items).symm, rfl⟩

end Arrangement

end RackInventory
