import RackInventory.Proofs.Inventory.Flattening
import RackInventory.Proofs.Text.ByteOrder
import RackInventory.Proofs.View.Consistency

/-!
# The sections of a view, read off the layout

What a view shows can be told from the layout of the infrastructure alone: the equipment of each
entry, list by list, as far as the criteria accept it, and the entries that name one rack put
together. The flat catalog, the places found in it and the grouping leave no trace.

Whether a section is expanded is a matter of the history, not of the layout.
-/

namespace RackInventory

/-- Whether equipment in a rack, listed under a category, satisfies the criteria. An empty part of
the criteria asks for nothing. -/
structure Criteria.Accepts (c : Criteria) (rack : String) (category : EquipmentCategory)
    (e : Equipment) : Prop where
  racks : c.racks ≠ .empty → rack ∈ c.racks
  equipmentTypes : c.equipmentTypes ≠ .empty → e.type.id ∈ c.equipmentTypes
  categories : c.categories ≠ .empty → category ∈ c.categories
  tags : c.tags ≠ .empty → ∃ tag ∈ e.tags, tag ∈ c.tags
  name : c.nameQuery ≠ "" → containsIgnoringCase e.name c.nameQuery = true

namespace Criteria

theorem keeps_ofEquipment_iff {c : Criteria} {rack : String} {category : EquipmentCategory}
    {e : Equipment} :
    c.keeps (.ofEquipment rack category e) = true ↔ c.Accepts rack category e := by
  rw [keeps_iff]
  constructor
  · rintro ⟨racks, types, categories, tags, name⟩
    exact ⟨racks, types, categories, tags, name⟩
  · rintro ⟨racks, types, categories, tags, name⟩
    exact ⟨racks, types, categories, tags, name⟩

instance (c : Criteria) (rack : String) (category : EquipmentCategory) (e : Equipment) :
    Decidable (c.Accepts rack category e) :=
  decidable_of_iff _ keeps_ofEquipment_iff

end Criteria

/-- The accepted part of one list of a layout entry, with the rack of the entry. -/
def RackLayout.acceptedIn (l : RackLayout) (c : Criteria) (category : EquipmentCategory)
    (list : List Equipment) : List PlacedItem :=
  (list.filter fun e => c.Accepts l.rack category e).map fun e =>
    { category, rack := l.rack, name := e.name, type := e.type, position := e.position
      tags := e.tags }

def RackLayout.accepted (l : RackLayout) (c : Criteria) : List PlacedItem :=
  l.acceptedIn c .node l.nodes ++ l.acceptedIn c .network l.network ++
    l.acceptedIn c .storage l.storage ++ l.acceptedIn c .misc l.misc

/-- The accepted equipment of a rack, entry by entry. -/
def Infrastructure.acceptedOf (i : Infrastructure) (c : Criteria) (rack : String) :
    List PlacedItem :=
  (i.layout.filter (·.rack = rack)).flatMap (·.accepted c)

/-- Whether some equipment of a rack is accepted. -/
def Infrastructure.Accepting (i : Infrastructure) (c : Criteria) (rack : String) : Prop :=
  ∃ l ∈ i.layout, l.rack = rack ∧
    ((∃ e ∈ l.nodes, c.Accepts rack .node e) ∨ (∃ e ∈ l.network, c.Accepts rack .network e) ∨
      (∃ e ∈ l.storage, c.Accepts rack .storage e) ∨ ∃ e ∈ l.misc, c.Accepts rack .misc e)

theorem RackLayout.select_list (l : RackLayout) (c : Criteria) (category : EquipmentCategory)
    (list : List Equipment) :
    c.select (list.map (PlacedItem.ofEquipment l.rack category)) =
      l.acceptedIn c category list := by
  rw [Criteria.select, List.filter_map, acceptedIn]
  congr 1
  apply List.filter_congr
  intro e _
  rw [Bool.eq_iff_iff, decide_eq_true_eq]
  exact Criteria.keeps_ofEquipment_iff

theorem Criteria.select_append (c : Criteria) (items more : List PlacedItem) :
    c.select (items ++ more) = c.select items ++ c.select more :=
  List.filter_append ..

theorem RackLayout.select_items (l : RackLayout) (c : Criteria) :
    c.select l.items = l.accepted c := by
  have lists : l.items = l.nodes.map (PlacedItem.ofEquipment l.rack .node) ++
      l.network.map (PlacedItem.ofEquipment l.rack .network) ++
      l.storage.map (PlacedItem.ofEquipment l.rack .storage) ++
      l.misc.map (PlacedItem.ofEquipment l.rack .misc) := by
    simp [items, EquipmentCategory.all, ofCategory]
  simp only [lists, Criteria.select_append, select_list, accepted]

theorem Infrastructure.select_items (i : Infrastructure) (c : Criteria) :
    c.select i.items = i.layout.flatMap (·.accepted c) := by
  rw [items, Criteria.select, List.filter_flatMap]
  congr 1
  funext l
  exact l.select_items c

theorem RackLayout.rack_of_mem_accepted {l : RackLayout} {c : Criteria} {item : PlacedItem}
    (h : item ∈ l.accepted c) : item.rack = l.rack := by
  simp only [accepted, acceptedIn, List.mem_append, List.mem_map] at h
  rcases h with ((⟨_, _, rfl⟩ | ⟨_, _, rfl⟩) | ⟨_, _, rfl⟩) | ⟨_, _, rfl⟩ <;> rfl

theorem RackLayout.accepted_ne_nil_iff {l : RackLayout} {c : Criteria} :
    l.accepted c ≠ [] ↔
      (∃ e ∈ l.nodes, c.Accepts l.rack .node e) ∨ (∃ e ∈ l.network, c.Accepts l.rack .network e) ∨
        (∃ e ∈ l.storage, c.Accepts l.rack .storage e) ∨
          ∃ e ∈ l.misc, c.Accepts l.rack .misc e := by
  have list : ∀ category (list : List Equipment), l.acceptedIn c category list ≠ [] ↔
      ∃ e ∈ list, c.Accepts l.rack category e := by
    intro category list
    simp [acceptedIn, List.filter_eq_nil_iff]
  rw [accepted, ← list .node, ← list .network, ← list .storage, ← list .misc]
  simp only [Ne, List.append_eq_nil_iff, not_and_or, or_assoc]

/-- The items of a rack come from the entries that name it. -/
theorem Infrastructure.acceptedOf_eq (i : Infrastructure) (c : Criteria) (rack : String) :
    (i.layout.flatMap (·.accepted c)).filter (·.rack = rack) = i.acceptedOf c rack :=
  filter_rack_flatMap (fun _ _ => RackLayout.rack_of_mem_accepted) i.layout rack

theorem Infrastructure.accepting_iff {i : Infrastructure} {c : Criteria} {rack : String} :
    i.Accepting c rack ↔ rack ∈ (i.layout.flatMap (·.accepted c)).map (·.rack) := by
  simp only [List.mem_map, List.mem_flatMap]
  constructor
  · rintro ⟨l, mem, rfl, accepted⟩
    obtain ⟨item, rest, eq⟩ :=
      List.exists_cons_of_ne_nil (RackLayout.accepted_ne_nil_iff.mpr accepted)
    have here : item ∈ l.accepted c := eq ▸ List.mem_cons_self
    exact ⟨item, ⟨l, mem, here⟩, RackLayout.rack_of_mem_accepted here⟩
  · rintro ⟨item, ⟨l, mem, here⟩, rfl⟩
    refine ⟨l, mem, (RackLayout.rack_of_mem_accepted here).symm, ?_⟩
    rw [RackLayout.rack_of_mem_accepted here]
    exact RackLayout.accepted_ne_nil_iff.mp (List.ne_nil_of_mem here)

/-- Whether a rack comes before another, by the bytes of their names. -/
def RackOrder.Before : RackOrder → String → String → Prop
  | .ascending, a, b => Utf8.ofString a < Utf8.ofString b
  | .descending, a, b => Utf8.ofString b < Utf8.ofString a

theorem RackOrder.sorts_iff {order : RackOrder} {racks : List String} :
    order.Sorts racks ↔ racks.Pairwise order.Before := by
  cases order with
  | ascending => exact List.Pairwise.iff fun _ _ => Utf8.ofString_lt_iff.symm
  | descending => exact List.Pairwise.iff fun _ _ => Utf8.ofString_lt_iff.symm

/-- The sections of a view, told from the layout: one for each rack with accepted equipment, in the
order of their bytes or its reverse, with the accepted equipment of the rack in layout order. All
accepted equipment is in the sections, each as often as in the layout. -/
theorem sections_of_layout (h : History) :
    ∃ racks : List String,
      racks.Pairwise h.view.arrangement.order.Before ∧
      (∀ rack, rack ∈ racks ↔ h.last.content.Accepting h.view.criteria rack) ∧
      h.view.sections = racks.map (fun rack =>
        { rack, expanded := h.view.arrangement.isExpanded? rack = some true
          items := h.last.content.acceptedOf h.view.criteria rack }) ∧
      (h.view.sections.flatMap (·.items)).Perm
        (h.last.content.layout.flatMap (·.accepted h.view.criteria)) := by
  have settled := h.view_settled
  have shown : h.view.shown = h.last.content.layout.flatMap (·.accepted h.view.criteria) := by
    rw [ViewState.shown_eq settled, settled.items, h.source_eq_last, Infrastructure.select_items]
  obtain ⟨racks, sorted, members, eq⟩ := h.view.arrangement.sections_eq_map h.view.shown
  have sections : h.view.sections = racks.map (h.view.arrangement.sectionOf h.view.shown) := eq
  refine ⟨racks, RackOrder.sorts_iff.mp sorted, ?_, ?_, ?_⟩
  · intro rack
    rw [members, shown, Infrastructure.accepting_iff]
  · rw [sections]
    apply List.map_congr_left
    intro rack mem
    obtain ⟨expanded, state⟩ := Option.isSome_iff_exists.mp
      ((ViewState.isExpanded?_isSome_iff settled).mpr ((members rack).mp mem))
    rw [Arrangement.sectionOf, state, shown, Infrastructure.acceptedOf_eq]
    simp
  · rw [sections, List.flatMap_map, ← shown]
    exact flatMap_filter_perm sorted.nodup fun item mem =>
      (members _).mpr (List.mem_map_of_mem mem)

end RackInventory
