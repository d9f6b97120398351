import RackInventory.Proofs.Filter.Dimensions
import RackInventory.Proofs.View.Independence

/-!
# Changes that only show more, and changes that only hide more

Criteria can be compared without regard to any items. One asks for all that another asks for if it
restricts each dimension that the other restricts, to values that the other selects too. It then
keeps fewer items of any list.

The first value of a dimension is a restriction, and any further value loosens it. So whether a
selection shows more or hides more depends on what is selected before it, and taking out a value
depends on what is left. The racks follow the items: the ones that come into sight are expanded, and
all that stay in sight keep their states.

Nothing is said about selecting a value that is there already, about taking out one that is not
there while others are, or about another text to look for.
-/

namespace RackInventory

namespace Criteria

variable {c d : Criteria} {s t : Selection} {i : PlacedItem}

/-- Whether some criteria ask for all that others ask for. -/
structure Tightens (c d : Criteria) : Prop where
  restricted : ∀ s, d.contains s → c.Selects s.dimension
  selected : ∀ s, d.contains s → ∀ t, c.contains t → t.dimension = s.dimension → d.contains t
  nameQuery : d.nameQuery ≠ "" → d.nameQuery = c.nameQuery

/-- Criteria that ask for more keep no item that the others do not keep. -/
theorem Tightens.keeps (h : c.Tightens d) (kept : c.keeps i = true) : d.keeps i = true := by
  rw [keeps_iff_carries] at kept ⊢
  obtain ⟨carried, named⟩ := kept
  constructor
  · intro s asked
    obtain ⟨t, selected, dimension⟩ := h.restricted s asked
    obtain ⟨u, here, same, carries⟩ := carried t selected
    have inDimension : u.dimension = s.dimension := same.trans dimension
    exact ⟨u, h.selected s asked u here inDimension, inDimension, carries⟩
  · intro asked
    have same := h.nameQuery asked
    rw [same]
    exact named (same ▸ asked)

theorem Tightens.places (h : c.Tightens d) (items : List PlacedItem) :
    (c.places items).Sublist (d.places items) := by
  apply List.Sublist.map
  apply List.monotone_filter_right
  intro _ kept
  exact h.keeps kept

/-- Whether a change can only let items in: another value of a dimension that has one, the removal
of the last value of a dimension, or the removal of whole dimensions. -/
def Widens (c : Criteria) : Change → Prop
  | .add s => ¬ c.contains s ∧ c.Selects s.dimension
  | .remove s => ¬ (c.remove s).2.Selects s.dimension
  | .clear _ => True
  | .clearAll => True
  | .flip _ => False
  | .seek _ => False
  | .dismiss _ => False

/-- Whether a change can only keep items out: the first value of a dimension, or the removal of one
value of several. -/
def Narrows (c : Criteria) : Change → Prop
  | .add s => ¬ c.Selects s.dimension
  | .remove s => c.contains s ∧ (c.remove s).2.Selects s.dimension
  | .clear _ => False
  | .clearAll => False
  | .flip _ => False
  | .seek _ => False
  | .dismiss _ => False

/-- Another value of a dimension that has one. -/
theorem tightens_add (h : c.Selects s.dimension) : c.Tightens (c.add s).2 where
  restricted := by
    intro t selected
    rcases contains_add.mp selected with rfl | here
    · exact h
    · exact ⟨t, here, rfl⟩
  selected := fun _ _ _ here _ => contains_add.mpr (.inr here)
  nameQuery := fun _ => c.nameQuery_add s

/-- The first value of a dimension. -/
theorem add_tightens (h : ¬ c.Selects s.dimension) : (c.add s).2.Tightens c where
  restricted := fun t here => ⟨t, contains_add.mpr (.inr here), rfl⟩
  selected := by
    intro t here u selected dimension
    rcases contains_add.mp selected with rfl | before
    · exact absurd ⟨t, here, dimension.symm⟩ h
    · exact before
  nameQuery := fun _ => (c.nameQuery_add s).symm

/-- The last value of a dimension is taken out. -/
theorem tightens_remove (h : ¬ (c.remove s).2.Selects s.dimension) : c.Tightens (c.remove s).2 where
  restricted := fun t left => ⟨t, (contains_remove.mp left).1, rfl⟩
  selected := by
    intro t left u here dimension
    refine contains_remove.mpr ⟨here, ?_⟩
    rintro rfl
    exact h ⟨t, left, dimension.symm⟩
  nameQuery := fun _ => c.nameQuery_remove s

/-- One value of several is taken out. -/
theorem remove_tightens (h : (c.remove s).2.Selects s.dimension) : (c.remove s).2.Tightens c where
  restricted := by
    intro t here
    -- What is left stands in for the value that is gone.
    by_cases gone : t = s
    · exact gone ▸ h
    · exact ⟨t, contains_remove.mpr ⟨here, gone⟩, rfl⟩
  selected := fun _ _ _ left _ => (contains_remove.mp left).1
  nameQuery := fun _ => (c.nameQuery_remove s).symm

theorem tightens_without (c : Criteria) (dimension : Dimension) :
    c.Tightens (c.without dimension) where
  restricted := fun t left => ⟨t, (contains_without.mp left).1, rfl⟩
  selected := by
    intro t left u here same
    exact contains_without.mpr ⟨here, same ▸ (contains_without.mp left).2⟩
  nameQuery := nameQuery_without

theorem tightens_empty (c : Criteria) : c.Tightens empty where
  restricted := fun t selected => absurd selected (not_contains_empty t)
  selected := fun t selected => absurd selected (not_contains_empty t)
  nameQuery := fun asked => absurd rfl asked

theorem Widens.tightens {change : Change} (h : c.Widens change) : c.Tightens (c.after change) := by
  cases change with
  | add s => exact tightens_add h.2
  | remove s => exact tightens_remove h
  | clear dimension => exact c.tightens_without dimension
  | clearAll => exact c.tightens_empty
  | flip s => exact h.elim
  | seek query => exact h.elim
  | dismiss b => exact h.elim

theorem Narrows.tightens {change : Change} (h : c.Narrows change) :
    (c.after change).Tightens c := by
  cases change with
  | add s => exact add_tightens h
  | remove s => exact remove_tightens h.2
  | clear dimension => exact h.elim
  | clearAll => exact h.elim
  | flip s => exact h.elim
  | seek query => exact h.elim
  | dismiss b => exact h.elim

end Criteria

namespace ViewState

/-- Whether all that a view shows is also shown by another, with its racks in the same states. -/
structure ShownIn (v w : ViewState) : Prop where
  catalog : v.catalog = w.catalog
  visible : v.visible.Sublist w.visible
  racks : v.shownRacks ⊆ w.shownRacks
  states : ∀ rack ∈ v.shownRacks, v.arrangement.isExpanded? rack = w.arrangement.isExpanded? rack

theorem shownRacks_subset {v w : ViewState} (catalog : v.catalog = w.catalog)
    (visible : v.visible.Sublist w.visible) : v.shownRacks ⊆ w.shownRacks := by
  have items : v.shown.Sublist w.shown := by
    rw [shown, shown, catalog]
    exact visible.filterMap _
  exact (items.map (·.rack)).subset

/-- A rack that is in sight before and after a change of the criteria keeps its state. -/
theorem isExpanded?_refine {v : ViewState} (h : v.Settled) {change : Criteria.Change}
    {rack : String} (before : rack ∈ v.shownRacks)
    (after : rack ∈ (v.step (.refine change)).shownRacks) :
    (v.step (.refine change)).arrangement.isExpanded? rack = v.arrangement.isExpanded? rack := by
  rw [isExpanded?_step h, if_pos after, if_neg nofun, isExpanded?_eq h rack, if_pos before]
  rfl

theorem shownIn_refine {v : ViewState} (h : v.Settled) {change : Criteria.Change}
    (looser : v.criteria.Tightens (v.criteria.after change)) :
    v.ShownIn (v.step (.refine change)) := by
  have visible : v.visible.Sublist (v.step (.refine change)).visible := by
    rw [h.visible]
    exact looser.places v.catalog.items
  have catalog : v.catalog = (v.step (.refine change)).catalog := rfl
  have racks := shownRacks_subset catalog visible
  exact ⟨catalog, visible, racks, fun rack shown =>
    (isExpanded?_refine h shown (racks shown)).symm⟩

theorem refine_shownIn {v : ViewState} (h : v.Settled) {change : Criteria.Change}
    (tighter : (v.criteria.after change).Tightens v.criteria) :
    (v.step (.refine change)).ShownIn v := by
  have visible : (v.step (.refine change)).visible.Sublist v.visible := by
    rw [h.visible]
    exact tighter.places v.catalog.items
  have catalog : (v.step (.refine change)).catalog = v.catalog := rfl
  have racks := shownRacks_subset catalog visible
  exact ⟨catalog, visible, racks, fun rack shown => isExpanded?_refine h (racks shown) shown⟩

end ViewState

/-- A change that widens the criteria hides nothing and changes no state of a rack in sight, and the
racks that it brings into sight are expanded. One that narrows them shows nothing new. -/
theorem History.refined_one_way (h : History) (change : Criteria.Change) :
    (h.view.criteria.Widens change →
      h.view.ShownIn (h.view.step (.refine change)) ∧
      ∀ rack, rack ∉ h.view.shownRacks → rack ∈ (h.view.step (.refine change)).shownRacks →
        (h.view.step (.refine change)).arrangement.isExpanded? rack = some true) ∧
    (h.view.criteria.Narrows change → (h.view.step (.refine change)).ShownIn h.view) := by
  have settled := h.view_settled
  refine ⟨fun widens => ⟨?_, ?_⟩, fun narrows => ?_⟩
  · exact ViewState.shownIn_refine settled widens.tightens
  · intro rack hidden shown
    exact ViewState.isExpanded?_step_of_hidden settled hidden shown
  · exact ViewState.refine_shownIn settled narrows.tightens

/-- The second rack beside the first shows more, a tag that nothing has shows less. -/
theorem widened_and_narrowed :
    History.oneRackHidden.view.ShownIn
        (History.oneRackHidden.view.step (.refine (.add (.rack "R02")))) ∧
      (History.oneRackHidden.view.step
        (.refine (.add (.rack "R02")))).arrangement.isExpanded? "R02" = some true ∧
      (History.oneRackHidden.view.step (.refine (.add (.tag "core")))).ShownIn
        History.oneRackHidden.view := by
  have widens : History.oneRackHidden.view.criteria.Widens (.add (.rack "R02")) :=
    ⟨by decide, .rack "R01", by decide, rfl⟩
  have narrows : History.oneRackHidden.view.criteria.Narrows (.add (.tag "core")) := by
    rintro ⟨s, selected, dimension⟩
    have one : History.oneRackHidden.view.criteria = Criteria.selecting [.rack "R01"] := by decide
    rw [one, Criteria.contains_selecting, List.mem_singleton] at selected
    cases selected
    cases dimension
  have both := History.refined_one_way History.oneRackHidden
  obtain ⟨more, expanded⟩ := (both _).1 widens
  exact ⟨more, expanded "R02" (by decide) (by decide), (both _).2 narrows⟩

end RackInventory
