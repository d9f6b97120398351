import RackInventory.Proofs.Filter.Membership
import RackInventory.Proofs.View.Independence

/-!
# What using a switch twice leaves behind

A selection that is flipped twice gives the criteria back, and with them all that is shown. The
states of the racks come back as far as the racks stayed in sight: a rack that was hidden in between
is forgotten there and expanded when it appears again. So the view is the same again exactly when no
collapsed rack was hidden. Flips that hide nothing, of a rack, of the order or of the panel, are
undone by a second one in every view.

Only two changes in a row are considered, of which the second undoes the first.
-/

namespace RackInventory

theorem RackOrder.reversed_reversed (order : RackOrder) : order.reversed.reversed = order := by
  cases order <;> rfl

namespace Arrangement

theorem flip_flip (a : Arrangement) (rack : String) : (a.flip rack).flip rack = a := by
  apply eq_of_isExpanded?
  · rw [order_flip, order_flip]
  · intro other
    by_cases same : other = rack
    · simp [isExpanded?_flip, same, Function.comp_def]
    · simp [isExpanded?_flip, same]

theorem reverse_reverse (a : Arrangement) : a.reverse.reverse = a := by
  apply eq_of_isExpanded?
  · exact a.order.reversed_reversed
  · intro _
    rfl

end Arrangement

theorem FacetPanel.flip_flip (panel : FacetPanel) : panel.flip.flip = panel := by
  cases panel
  simp [flip]

namespace ViewState

variable {v between w : ViewState}

/-- Whether a view is what it was before the criteria were changed, but for the racks that were out
of sight in between, which are expanded. -/
structure Restored (v between w : ViewState) : Prop where
  catalog : w.catalog = v.catalog
  criteria : w.criteria = v.criteria
  visible : w.visible = v.visible
  shown : w.shown = v.shown
  order : w.arrangement.order = v.arrangement.order
  panel : w.panel = v.panel
  dialog : w.dialog = v.dialog
  states : ∀ rack, w.arrangement.isExpanded? rack =
    if rack ∈ v.shownRacks ∧ rack ∉ between.shownRacks then some true
    else v.arrangement.isExpanded? rack

/-- A change of the criteria keeps the states of the racks that stay in sight and expands the others
that are shown then. -/
theorem isExpanded?_step_refine (v : ViewState) (change : Criteria.Change) (rack : String) :
    (v.step (.refine change)).arrangement.isExpanded? rack =
      if rack ∈ (v.step (.refine change)).shownRacks then
        some ((v.arrangement.isExpanded? rack).getD true)
      else none :=
  Arrangement.isExpanded?_showing ..

theorem restored_of_back (h : v.Settled) {there back : Criteria.Change}
    (undone : (v.criteria.after there).after back = v.criteria) :
    v.Restored (v.step (.refine there)) ((v.step (.refine there)).step (.refine back)) := by
  have between := step_settled h (.refine there)
  have visible : ((v.step (.refine there)).step (.refine back)).visible = v.visible := by
    rw [(step_settled between (.refine back)).visible, h.visible]
    exact congrArg (·.places v.catalog.items) undone
  have shown : ((v.step (.refine there)).step (.refine back)).shown = v.shown :=
    congrArg (pick v.catalog.items) visible
  have racks : ((v.step (.refine there)).step (.refine back)).shownRacks = v.shownRacks := by
    rw [shownRacks, shown, shownRacks]
  refine ⟨rfl, undone, visible, shown, rfl, rfl, rfl, ?_⟩
  intro rack
  rw [isExpanded?_step_refine, isExpanded?_step_refine v, racks, isExpanded?_eq h rack]
  by_cases before : rack ∈ v.shownRacks
  · by_cases kept : rack ∈ (v.step (.refine there)).shownRacks
    · simp [before, kept]
    · simp [before, kept]
  · simp [before]

/-- The view is the same again when nothing that was collapsed went out of sight. -/
theorem Restored.eq_iff (h : v.Restored between w) :
    w = v ↔ ∀ rack ∈ v.shownRacks, rack ∉ between.shownRacks →
      v.arrangement.isExpanded? rack = some true := by
  constructor
  · rintro rfl rack before hidden
    rw [h.states, if_pos ⟨before, hidden⟩]
  · intro expanded
    have arrangement : w.arrangement = v.arrangement := by
      apply Arrangement.eq_of_isExpanded? h.order
      intro rack
      rw [h.states]
      split
      · rename_i gone
        exact (expanded rack gone.1 gone.2).symm
      · rfl
    obtain ⟨catalog, criteria, visible, _, _, panel, dialog, _⟩ := h
    cases v
    cases w
    cases catalog
    cases criteria
    cases visible
    cases panel
    cases dialog
    cases arrangement
    rfl

theorem Restored.sections (h : v.Restored between w) :
    w.sections = v.sections.map fun s =>
      if s.rack ∈ between.shownRacks then s else { s with expanded := true } := by
  rw [ViewState.sections, h.shown, Arrangement.sections_of_order h.order]
  apply List.map_congr_left
  intro s mem
  obtain ⟨rack, rfl⟩ : ∃ rack, s = v.arrangement.sectionOf v.shown rack :=
    ⟨s.rack, Arrangement.eq_sectionOf_of_mem mem⟩
  have before : rack ∈ v.shownRacks := Arrangement.exists_mem_sections.mp ⟨_, mem, rfl⟩
  change w.arrangement.sectionOf v.shown rack = if rack ∈ between.shownRacks then _ else _
  rw [Arrangement.sectionOf, h.states]
  by_cases kept : rack ∈ between.shownRacks
  · simp [Arrangement.sectionOf, kept]
  · simp [Arrangement.sectionOf, kept, before]

def flipped (v : ViewState) (s : Selection) : ViewState := v.step (.refine (.flip s))

theorem restored_flipped (h : v.Settled) (s : Selection) :
    v.Restored (v.flipped s) ((v.flipped s).flipped s) :=
  restored_of_back h (v.criteria.flip_flip s)

end ViewState

/-- A selection that is flipped twice leaves all as it was, but for the racks that were hidden by
the first flip: they are expanded. Other flips are undone by a second one altogether, the flip of a
rack also when the rack is not shown. -/
theorem History.flips_undone (h : History) :
    (∀ s, h.view.Restored (h.view.flipped s) ((h.view.flipped s).flipped s) ∧
      ((h.view.flipped s).flipped s).sections = h.view.sections.map (fun part =>
        if part.rack ∈ (h.view.flipped s).shownRacks then part
        else { part with expanded := true }) ∧
      ((h.view.flipped s).flipped s = h.view ↔
        ∀ rack ∈ h.view.shownRacks, rack ∉ (h.view.flipped s).shownRacks →
          h.view.arrangement.isExpanded? rack = some true)) ∧
    (∀ rack, (h.view.step (.flipRack rack)).step (.flipRack rack) = h.view) ∧
    (h.view.step .reverseRacks).step .reverseRacks = h.view ∧
    (h.view.step .flipPanel).step .flipPanel = h.view := by
  refine ⟨?_, ?_, ?_, ?_⟩
  · intro s
    have restored := ViewState.restored_flipped h.view_settled s
    exact ⟨restored, restored.sections, restored.eq_iff⟩
  · intro rack
    have flipped := h.view.arrangement.flip_flip rack
    exact congrArg (fun arrangement => { h.view with arrangement }) flipped
  · have reversed := h.view.arrangement.reverse_reverse
    exact congrArg (fun arrangement => { h.view with arrangement }) reversed
  · have flipped := h.view.panel.flip_flip
    exact congrArg (fun panel => { h.view with panel }) flipped

def History.oneRackCollapsed : History where
  first := History.oneRackHidden.first
  gestures := [.flipRack "R02"]
  coherent := by
    intro a ha b hb _
    exact (List.mem_singleton.mp ha).trans (List.mem_singleton.mp hb).symm

/-- A collapsed rack that is filtered out and in again is expanded. -/
theorem collapsed_rack_forgotten :
    History.oneRackCollapsed.view.arrangement.isExpanded? "R02" = some false ∧
      "R02" ∉ (History.oneRackCollapsed.view.flipped (.rack "R01")).shownRacks ∧
      ((History.oneRackCollapsed.view.flipped (.rack "R01")).flipped
        (.rack "R01")).arrangement.isExpanded? "R02" = some true := by
  have shown : "R02" ∈ History.oneRackCollapsed.view.shownRacks := by decide
  have hidden : "R02" ∉ (History.oneRackCollapsed.view.flipped (.rack "R01")).shownRacks := by
    decide
  have states := (History.oneRackCollapsed.flips_undone.1 (.rack "R01")).1.states "R02"
  rw [if_pos ⟨shown, hidden⟩] at states
  exact ⟨by decide, hidden, states⟩

end RackInventory
