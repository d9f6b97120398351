import RackInventory.Proofs.Filter.Facets

/-!
# Facets in the order of first appearance

The facets can be gathered in one pass over the items: a value goes to the end of its list when it
is seen for the first time. After each item every list has what has occurred so far, once, in the
order in which it first occurred. More items therefore only add to the ends of the lists, and a
search text can be applied to what occurs as well as to what is listed.

What has been seen is kept in a set beside the lists of racks, types and tags. The categories are
few and are looked up in their list. The items are any list of items: criteria play no part here.
-/

namespace RackInventory

section Lists

variable {α : Type} [DecidableEq α]

/-- Whether a list has the elements of another one, each once, in the order in which they first
occur there. -/
structure ListsOnce (occurring listed : List α) : Prop where
  nodup : listed.Nodup
  mem_iff : ∀ a, a ∈ listed ↔ a ∈ occurring
  ordered : listed.Pairwise fun a b => occurring.idxOf a < occurring.idxOf b

/-- Whether a list goes on with elements that another one does not have. -/
def Extends (old new : List α) : Prop := ∃ fresh, new = old ++ fresh ∧ ∀ a ∈ fresh, a ∉ old

/-- Whether a list is what a search text leaves of another one: the values whose text it is found
in, in their order and as often, and everything if the search text is empty. -/
structure LeftBy (text : α → String) (query : String) (all left : List α) : Prop where
  inOrder : left.Sublist all
  kept : ∀ a, containsIgnoringCase (text a) query = true → left.count a = all.count a
  dropped : ∀ a, containsIgnoringCase (text a) query = false → a ∉ left
  whole : query = "" → left = all

theorem leftBy_filter (text : α → String) (query : String) (l : List α) :
    LeftBy text query l (l.filter fun a => containsIgnoringCase (text a) query) where
  inOrder := List.filter_sublist
  kept _ found := List.count_filter found
  dropped a missing mem := by
    rw [(List.mem_filter.mp mem).2] at missing
    cases missing
  whole none := by
    rw [none]
    exact List.filter_eq_self.mpr fun a _ => containsIgnoringCase_empty (text a)

theorem ordered_distinct (l : List α) :
    (distinct l).Pairwise fun a b => l.idxOf a < l.idxOf b := by
  induction l with
  | nil => exact .nil
  | cons c rest ih =>
    have index : ∀ b, b ≠ c → (c :: rest).idxOf b = rest.idxOf b + 1 := by
      intro b other
      rw [List.idxOf_cons, beq_false_of_ne other.symm, cond_false]
    rw [distinct, List.pairwise_cons]
    constructor
    · intro b mem
      have other : b ≠ c := of_decide_eq_true (List.mem_filter.mp mem).2
      rw [List.idxOf_cons_self, index b other]
      exact Nat.zero_lt_succ _
    · refine (ih.filter _).imp_of_mem ?_
      intro a b memA memB before
      have otherA : a ≠ c := of_decide_eq_true (List.mem_filter.mp memA).2
      have otherB : b ≠ c := of_decide_eq_true (List.mem_filter.mp memB).2
      rw [index a otherA, index b otherB]
      exact Nat.succ_lt_succ before

theorem listsOnce_distinct (l : List α) : ListsOnce l (distinct l) :=
  ⟨nodup_distinct l, fun _ => mem_distinct, ordered_distinct l⟩

/-- A test may come before or after repetitions are left out. -/
theorem distinct_filter (p : α → Bool) (l : List α) :
    distinct (l.filter p) = (distinct l).filter p := by
  induction l with
  | nil => rfl
  | cons a rest ih =>
    rw [distinct, List.filter_cons, List.filter_cons, List.filter_comm, ← ih]
    cases passes : p a with
    | true => rfl
    | false =>
      -- The element fails the test, so it is not among those that pass.
      have others : ∀ b ∈ distinct (rest.filter p), decide (b ≠ a) = true := by
        intro b mem
        rw [mem_distinct, List.mem_filter] at mem
        rw [decide_eq_true_eq]
        rintro rfl
        rw [passes] at mem
        cases mem.2
      exact (List.filter_eq_self.mpr others).symm

theorem distinct_append (l m : List α) :
    distinct (l ++ m) = distinct l ++ (distinct m).filter (· ∉ l) := by
  induction l with
  | nil => simp [distinct]
  | cons a rest ih =>
    rw [List.cons_append, distinct, ih, List.filter_append, List.filter_filter, distinct,
      List.cons_append]
    congr 2
    apply List.filter_congr
    intro b _
    rw [← Bool.decide_and, decide_eq_decide, List.mem_cons, not_or]

theorem distinct_concat (l : List α) (a : α) :
    distinct (l ++ [a]) = if a ∈ l then distinct l else distinct l ++ [a] := by
  rw [distinct_append]
  by_cases seen : a ∈ l
  · simp [distinct, seen]
  · simp [distinct, seen]

theorem extends_distinct (l m : List α) : Extends (distinct l) (distinct (l ++ m)) := by
  refine ⟨_, distinct_append l m, ?_⟩
  intro a mem
  rw [mem_distinct]
  exact of_decide_eq_true (List.mem_filter.mp mem).2

end Lists

/-- The values of one kind in the order in which they were seen first, and what has been seen. -/
structure Gathered (α : Type) [LT α] where
  listed : List α
  seen : OrderedSet α

namespace Gathered

section Steps

variable {α : Type} [DecidableEq α] [LT α]

def nothing : Gathered α := ⟨[], .empty⟩

/-- Whether some values are all that has been seen so far. -/
structure Of (g : Gathered α) (values : List α) : Prop where
  listed : g.listed = distinct values
  seen : ∀ a, a ∈ g.seen ↔ a ∈ values

theorem of_nothing : (nothing : Gathered α).Of [] := ⟨rfl, fun _ => Iff.rfl⟩

variable [LE α] [Std.IsLinearOrder α] [Std.LawfulOrderLT α] [DecidableLT α]

def add (g : Gathered α) (a : α) : Gathered α :=
  if a ∈ g.seen then g else ⟨g.listed ++ [a], g.seen.insert a⟩

theorem Of.add {g : Gathered α} {values : List α} (h : g.Of values) (a : α) :
    (g.add a).Of (values ++ [a]) := by
  unfold Gathered.add
  by_cases seen : a ∈ g.seen
  · rw [if_pos seen]
    have before : a ∈ values := (h.seen a).mp seen
    refine ⟨by rw [h.listed, distinct_concat, if_pos before], ?_⟩
    intro b
    rw [h.seen, List.mem_append, List.mem_singleton, or_iff_left_of_imp]
    rintro rfl
    exact before
  · rw [if_neg seen]
    have before : a ∉ values := fun mem => seen ((h.seen a).mpr mem)
    refine ⟨by rw [h.listed, distinct_concat, if_neg before], ?_⟩
    intro b
    rw [OrderedSet.mem_insert, h.seen, List.mem_append, List.mem_singleton, or_comm]

theorem Of.addAll {g : Gathered α} {values : List α} (h : g.Of values) (more : List α) :
    (more.foldl Gathered.add g).Of (values ++ more) := by
  induction more generalizing g values with
  | nil => rwa [List.append_nil]
  | cons a rest ih =>
    have all := ih (h.add a)
    rwa [List.append_assoc] at all

end Steps

end Gathered

structure Gathering where
  racks : Gathered String
  equipmentTypes : Gathered String
  categories : List EquipmentCategory
  tags : Gathered String

namespace Gathering

def initial : Gathering := ⟨.nothing, .nothing, [], .nothing⟩

def next (g : Gathering) (i : PlacedItem) : Gathering where
  racks := g.racks.add i.rack
  equipmentTypes := g.equipmentTypes.add i.typeId
  categories :=
    if i.category ∈ g.categories then g.categories else g.categories ++ [i.category]
  tags := i.tags.foldl Gathered.add g.tags

def facets (g : Gathering) : Facets :=
  ⟨g.racks.listed, g.equipmentTypes.listed, g.categories, g.tags.listed⟩

/-- Whether some items are those that have been gone through. -/
structure Of (g : Gathering) (items : List PlacedItem) : Prop where
  racks : g.racks.Of (items.map (·.rack))
  equipmentTypes : g.equipmentTypes.Of (items.map (·.typeId))
  categories : g.categories = distinct (items.map (·.category))
  tags : g.tags.Of (items.flatMap (·.tags))

theorem of_initial : initial.Of [] :=
  ⟨Gathered.of_nothing, Gathered.of_nothing, rfl, Gathered.of_nothing⟩

theorem Of.next {g : Gathering} {items : List PlacedItem} (h : g.Of items) (i : PlacedItem) :
    (g.next i).Of (items ++ [i]) := by
  refine ⟨?_, ?_, ?_, ?_⟩
  · rw [List.map_append]
    exact h.racks.add i.rack
  · rw [List.map_append]
    exact h.equipmentTypes.add i.typeId
  · simp only [Gathering.next, h.categories, mem_distinct]
    rw [List.map_append]
    exact (distinct_concat _ i.category).symm
  · rw [List.flatMap_append, List.flatMap_singleton]
    exact h.tags.addAll i.tags

theorem Of.nextAll {g : Gathering} {items : List PlacedItem} (h : g.Of items)
    (more : List PlacedItem) : (more.foldl Gathering.next g).Of (items ++ more) := by
  induction more generalizing g items with
  | nil => rwa [List.append_nil]
  | cons i rest ih =>
    have all := ih (h.next i)
    rwa [List.append_assoc] at all

theorem facets_eq {g : Gathering} {items : List PlacedItem} (h : g.Of items) :
    g.facets = Facets.ofItems items := by
  rw [facets, h.racks.listed, h.equipmentTypes.listed, h.categories, h.tags.listed]
  rfl

end Gathering

namespace Facets

/-- The values that occur in a list of items, as often as they do. -/
def occurring (items : List PlacedItem) : Facets where
  racks := items.map (·.rack)
  equipmentTypes := items.map (·.typeId)
  categories := items.map (·.category)
  tags := items.flatMap (·.tags)

def once (f : Facets) : Facets where
  racks := distinct f.racks
  equipmentTypes := distinct f.equipmentTypes
  categories := distinct f.categories
  tags := distinct f.tags

/-- Whether the lists of each dimension are related. -/
structure Each (related : ∀ {α : Type} [DecidableEq α], List α → List α → Prop) (f g : Facets) :
    Prop where
  racks : related f.racks g.racks
  equipmentTypes : related f.equipmentTypes g.equipmentTypes
  categories : related f.categories g.categories
  tags : related f.tags g.tags

/-- Whether the list of each dimension is what its search text leaves. -/
structure Leaves (q : FacetQueries) (f g : Facets) : Prop where
  racks : LeftBy id q.racks f.racks g.racks
  equipmentTypes : LeftBy id q.equipmentTypes f.equipmentTypes g.equipmentTypes
  categories : LeftBy EquipmentCategory.key q.categories f.categories g.categories
  tags : LeftBy id q.tags f.tags g.tags

theorem leaves_restricted (f : Facets) (q : FacetQueries) : Leaves q f (f.restricted q) :=
  ⟨leftBy_filter _ _ _, leftBy_filter _ _ _, leftBy_filter _ _ _, leftBy_filter _ _ _⟩

theorem restricted_restricted (f : Facets) (q : FacetQueries) :
    (f.restricted q).restricted q = f.restricted q := by
  simp only [restricted, List.filter_filter, Bool.and_self]

theorem once_restricted (f : Facets) (q : FacetQueries) :
    (f.restricted q).once = f.once.restricted q := by
  simp only [once, restricted, distinct_filter]

theorem ofItems_eq_once (items : List PlacedItem) : ofItems items = (occurring items).once := rfl

theorem ofItems_listsOnce (items : List PlacedItem) :
    (occurring items).Each ListsOnce (ofItems items) :=
  ⟨listsOnce_distinct _, listsOnce_distinct _, listsOnce_distinct _, listsOnce_distinct _⟩

theorem ofItems_append (items more : List PlacedItem) :
    (ofItems items).Each Extends (ofItems (items ++ more)) := by
  simp only [ofItems, List.map_append, List.flatMap_append]
  exact ⟨extends_distinct _ _, extends_distinct _ _, extends_distinct _ _, extends_distinct _ _⟩

/-- One pass over the items lists in each dimension the values that occur, each once, in the order
in which they first occur, and more items only add to the ends of the lists. Search texts leave, in
each dimension, the values in which the text is found. Applying them again changes nothing, and they
may be applied before repetitions are left out. -/
theorem facets_in_first_order (items : List PlacedItem) :
    (items.foldl Gathering.next .initial).facets = ofItems items ∧
    (occurring items).Each ListsOnce (ofItems items) ∧
    (∀ more, (ofItems items).Each Extends (ofItems (items ++ more))) ∧
    ∀ q, (∀ f : Facets, Leaves q f (f.restricted q) ∧
        (f.restricted q).restricted q = f.restricted q) ∧
      (ofItems items).restricted q = ((occurring items).restricted q).once := by
  refine ⟨Gathering.facets_eq (Gathering.of_initial.nextAll items), ofItems_listsOnce items,
    ofItems_append items, ?_⟩
  intro q
  refine ⟨fun f => ⟨f.leaves_restricted q, f.restricted_restricted q⟩, ?_⟩
  rw [once_restricted, ofItems_eq_once]

end Facets

end RackInventory
