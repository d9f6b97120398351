import RackInventory.Proofs.Filter.Changes
import RackInventory.Proofs.View.Independence

/-!
# The kept items leave no trace

A view keeps the items of its infrastructure and lists them anew only when it is given another
one, told by its identity. A direct view keeps no items and knows no identities: it lists the
items of its infrastructure whenever they are needed. Both show the same after any history, so it
cannot be told whether a loaded infrastructure was the one held, an equal one or a different one
that looks alike.

A gesture on what is shown that changes neither the infrastructure nor the criteria changes nothing
in a view, as a settled view stays as it is when it is settled again.
-/

namespace RackInventory

/-- A view that keeps no items. -/
structure DirectView where
  infrastructure : Infrastructure
  criteria : Criteria
  arrangement : Arrangement
  panel : FacetPanel
  dialog : TypeDialog

namespace DirectView

def shown (d : DirectView) : List PlacedItem := d.criteria.select d.infrastructure.items

def settled (d : DirectView) : DirectView :=
  { d with arrangement := d.arrangement.showing (d.shown.map (·.rack)) }

def initial (infrastructure : Infrastructure) : DirectView :=
  settled
    { infrastructure
      criteria := .empty
      arrangement := .initial
      panel := .initial
      dialog := .initial }

def step (d : DirectView) : Gesture → DirectView
  | .load source => settled { d with infrastructure := source.content }
  | .refine change => settled { d with criteria := d.criteria.after change }
  | .flipRack rack => { d with arrangement := d.arrangement.flip rack }
  | .reverseRacks => { d with arrangement := d.arrangement.reverse }
  | .flipPanel => { d with panel := d.panel.flip }
  | .searchFacets q => { d with panel := { d.panel with queries := q } }
  | .openType t => { d with dialog := d.dialog.present t }
  | .closeDialog => { d with dialog := d.dialog.close }

def run (d : DirectView) (gestures : List Gesture) : DirectView := gestures.foldl step d

end DirectView

structure Observation where
  name : String
  shown : List PlacedItem
  sections : List RackSection
  facets : Facets
  criteria : Criteria
  order : RackOrder
  panel : FacetPanel
  dialog : TypeDialog

def ViewState.observed (v : ViewState) : Observation where
  name := v.infrastructure.name
  shown := v.shown
  sections := v.sections
  facets := v.facets
  criteria := v.criteria
  order := v.arrangement.order
  panel := v.panel
  dialog := v.dialog

def DirectView.observed (d : DirectView) : Observation where
  name := d.infrastructure.name
  shown := d.shown
  sections := d.arrangement.sections d.shown
  facets := (Facets.ofItems d.infrastructure.items).restricted d.panel.queries
  criteria := d.criteria
  order := d.arrangement.order
  panel := d.panel
  dialog := d.dialog

namespace ViewState

/-- The view without the items that it keeps. -/
def direct (v : ViewState) : DirectView where
  infrastructure := v.infrastructure
  criteria := v.criteria
  arrangement := v.arrangement
  panel := v.panel
  dialog := v.dialog

theorem shown_direct {v : ViewState} (h : v.Settled) : v.direct.shown = v.shown := by
  rw [shown_eq h, h.items]
  rfl

theorem observed_direct {v : ViewState} (h : v.Settled) : v.direct.observed = v.observed := by
  have facets : (Facets.ofItems v.infrastructure.items).restricted v.panel.queries = v.facets := by
    rw [ViewState.facets, h.items, infrastructure]
  have sections : v.arrangement.sections v.direct.shown = v.sections := by
    rw [shown_direct h, ViewState.sections]
  have shown := shown_direct h
  rw [DirectView.observed, ViewState.observed, ← facets, ← sections, ← shown]
  rfl

theorem direct_settled {v : ViewState} (items : v.catalog.items = v.infrastructure.items) :
    v.settled.direct = v.direct.settled := by
  have shown : pick v.catalog.items (v.criteria.places v.catalog.items) = v.direct.shown := by
    rw [pick_places, items]
    rfl
  have arranged := congrArg (fun items => v.arrangement.showing (items.map (·.rack))) shown
  exact congrArg (fun arrangement => { v.direct with arrangement }) arranged

/-- One gesture does the same to both, provided that an infrastructure is the one it is held for. -/
theorem direct_step {v : ViewState} (h : v.Settled) (g : Gesture)
    (coherent : ∀ source ∈ g.source?, v.catalog.source.identity = source.identity →
      v.catalog.source = source) :
    (v.step g).direct = v.direct.step g := by
  cases g with
  | load source =>
    have held := Catalog.load_source (coherent source rfl)
    have items := load_items h.items source
    have loaded : { v with catalog := v.catalog.load source }.direct =
        { v.direct with infrastructure := source.content } := by
      rw [direct, infrastructure, held]
      rfl
    exact (direct_settled items).trans (congrArg DirectView.settled loaded)
  | refine change => exact direct_settled h.items
  | flipRack rack => rfl
  | reverseRacks => rfl
  | flipPanel => rfl
  | searchFacets q => rfl
  | openType t => rfl
  | closeDialog => rfl

theorem direct_run {v : ViewState} (h : v.Settled) {gestures : List Gesture}
    (coherent : Coherent (v.catalog.source :: gestures.filterMap Gesture.source?)) :
    (v.run gestures).direct = v.direct.run gestures := by
  induction gestures generalizing v with
  | nil => rfl
  | cons g rest ih =>
    have one : (v.step g).direct = v.direct.step g := direct_step h g coherent.next
    rw [run_cons, ih (step_settled h g) (coherent_step coherent), one]
    rfl

theorem settled_eq_self {v : ViewState} (h : v.Settled) : v.settled = v := by
  have arranged : v.arrangement.showing v.shownRacks = v.arrangement :=
    Arrangement.showing_of_known h.known
  rw [settled, ← h.visible]
  exact congrArg (fun arrangement => { v with arrangement }) arranged

theorem step_load_same {v : ViewState} (h : v.Settled) {source : Loaded Infrastructure}
    (same : source.identity = v.catalog.source.identity) : v.step (.load source) = v := by
  have kept : v.catalog.load source = v.catalog := by
    simp [Catalog.load, Catalog.isStale, same]
  rw [step, kept]
  exact settled_eq_self h

theorem step_refine_eq_self_iff {v : ViewState} (h : v.Settled) {change : Criteria.Change} :
    v.step (.refine change) = v ↔ v.criteria.after change = v.criteria := by
  constructor
  · exact congrArg ViewState.criteria
  · intro same
    rw [step, same]
    exact settled_eq_self h

end ViewState

theorem History.direct_view (h : History) :
    h.view.direct = (DirectView.initial h.first.content).run h.gestures := by
  have first : (ViewState.initial h.first).direct = DirectView.initial h.first.content :=
    ViewState.direct_settled rfl
  rw [← first]
  exact ViewState.direct_run (ViewState.initial_settled h.first) h.coherent

/-- Loading what is held changes nothing, and loading anything else shows what a view that keeps no
items shows. A change that leaves the criteria as they are changes nothing, and such are exactly
the changes that have nothing to do. -/
theorem reloading_unseen (h : History) :
    (∀ source, source.identity = h.last.identity → h.view.step (.load source) = h.view) ∧
    (∀ source, (h.last.identity = source.identity → h.last = source) →
      (h.view.step (.load source)).observed =
        (((DirectView.initial h.first.content).run h.gestures).step (.load source)).observed ∧
      (source.content = h.last.content →
        (h.view.step (.load source)).observed = h.view.observed)) ∧
    (∀ change, h.view.criteria.after change = h.view.criteria →
      h.view.step (.refine change) = h.view) ∧
    (∀ change, h.view.criteria.after change = h.view.criteria ↔ h.view.criteria.Idle change) := by
  have settled := h.view_settled
  refine ⟨?_, ?_, ?_, fun change => Criteria.after_eq_self_iff⟩
  · intro source same
    rw [← h.source_eq_last] at same
    exact ViewState.step_load_same settled same
  · intro source coherent
    have loaded : (h.view.step (.load source)).direct = h.view.direct.step (.load source) := by
      apply ViewState.direct_step settled
      rintro _ ⟨⟩
      rw [h.source_eq_last]
      exact coherent
    have after := ViewState.observed_direct (ViewState.step_settled settled (.load source))
    refine ⟨?_, ?_⟩
    · rw [← after, loaded, h.direct_view]
    · intro equal
      -- A settled view that is given its own content again is only settled again.
      have held : h.view.infrastructure = source.content := by
        rw [ViewState.infrastructure, h.source_eq_last, equal]
      have fixed : h.view.direct.settled = h.view.direct := by
        rw [← ViewState.direct_settled settled.items, ViewState.settled_eq_self settled]
      have unchanged : h.view.direct.step (.load source) = h.view.direct := by
        change DirectView.settled { h.view.direct with infrastructure := source.content } = _
        rw [← held]
        exact fixed
      rw [← after, loaded, unchanged, ViewState.observed_direct settled]
  · intro change same
    exact (ViewState.step_refine_eq_self_iff settled).mpr same

theorem equal_copy_unseen :
    (History.oneRackHidden.view.step
      (.load ⟨1, History.oneRackHidden.last.content⟩)).observed =
        History.oneRackHidden.view.observed := by
  have different : History.oneRackHidden.last.identity ≠ 1 := by decide
  exact ((reloading_unseen History.oneRackHidden).2.1 ⟨1, History.oneRackHidden.last.content⟩
    fun same => absurd same different).2 rfl

end RackInventory
