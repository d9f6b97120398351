import Mathlib.Algebra.Ring.Parity
import RackInventory.Proofs.View.Expansion

/-!
# Parts of a view that do not depend on each other

A gesture changes one part of a view and leaves the others alone, so what becomes of a part is told
by the gestures on it: the last one, their number or the changes one after the other. Gestures on
different parts may come in either order. There is one exception, because filtering and loading
decide which racks are known: a flip of a rack that is not shown yet does nothing, and after the
rack came into sight it collapses it.

Loading and filtering count as one part, and nothing is said about the order of two gestures on the
same part.
-/

namespace RackInventory

/-- What a gesture is about. -/
inductive Part where
  | selection
  | racks
  | order
  | panel
  | search
  | dialog
deriving DecidableEq

namespace Gesture

def part : Gesture → Part
  | .load _ => .selection
  | .refine _ => .selection
  | .flipRack _ => .racks
  | .reverseRacks => .order
  | .flipPanel => .panel
  | .searchFacets _ => .search
  | .openType _ => .dialog
  | .closeDialog => .dialog

/-- Whether a gesture can matter to the racks that are known and to their states. -/
def onRacks (g : Gesture) : Bool := g.part = .selection ∨ g.part = .racks

theorem onRacks_iff {g : Gesture} : g.onRacks ↔ g.part = .selection ∨ g.part = .racks :=
  decide_eq_true_iff

def change? : Gesture → Option Criteria.Change
  | .refine change => some change
  | _ => none

def queries? : Gesture → Option FacetQueries
  | .searchFacets q => some q
  | _ => none

def opened? : Gesture → Option EquipmentType
  | .openType t => some t
  | _ => none

/-- Whether a gesture on the dialog opens it. -/
def opens? : Gesture → Option Bool
  | .openType _ => some true
  | .closeDialog => some false
  | _ => none

end Gesture

namespace ViewState

def withDialog (v : ViewState) (dialog : TypeDialog) : ViewState := { v with dialog }

def withPanel (v : ViewState) (panel : FacetPanel) : ViewState := { v with panel }

def ordered (v : ViewState) (order : RackOrder) : ViewState :=
  { v with arrangement := { v.arrangement with order } }

theorem step_withDialog (v : ViewState) (dialog : TypeDialog) {g : Gesture}
    (h : g.part ≠ .dialog) : (v.withDialog dialog).step g = (v.step g).withDialog dialog := by
  cases g with
  | openType t => exact absurd rfl h
  | closeDialog => exact absurd rfl h
  | load source => rfl
  | refine change => rfl
  | flipRack rack => rfl
  | reverseRacks => rfl
  | flipPanel => rfl
  | searchFacets q => rfl

theorem step_withPanel (v : ViewState) (panel : FacetPanel) {g : Gesture} (h : g.part ≠ .panel)
    (k : g.part ≠ .search) : (v.withPanel panel).step g = (v.step g).withPanel panel := by
  cases g with
  | flipPanel => exact absurd rfl h
  | searchFacets q => exact absurd rfl k
  | load source => rfl
  | refine change => rfl
  | flipRack rack => rfl
  | reverseRacks => rfl
  | openType t => rfl
  | closeDialog => rfl

theorem step_ordered (v : ViewState) (order : RackOrder) {g : Gesture} (h : g.part ≠ .order) :
    (v.ordered order).step g = (v.step g).ordered order := by
  cases g with
  | reverseRacks => exact absurd rfl h
  | flipRack rack =>
    have flipped := v.arrangement.flip_ordered order rack
    exact congrArg (fun arrangement => { v with arrangement }) flipped
  | load source => rfl
  | refine change => rfl
  | flipPanel => rfl
  | searchFacets q => rfl
  | openType t => rfl
  | closeDialog => rfl

theorem step_shownRacks (v : ViewState) {g : Gesture} (h : g.part ≠ .selection) :
    (v.step g).shownRacks = v.shownRacks := by
  cases g with
  | load source => exact absurd rfl h
  | refine change => exact absurd rfl h
  | flipRack rack => rfl
  | reverseRacks => rfl
  | flipPanel => rfl
  | searchFacets q => rfl
  | openType t => rfl
  | closeDialog => rfl

/-- A value that some gestures give is the one given last. -/
theorem run_last {β : Type} (f : ViewState → β) (given? : Gesture → Option β)
    (one : ∀ v g, f (v.step g) = (given? g).getD (f v)) (v : ViewState) (gestures : List Gesture) :
    f (v.run gestures) = (gestures.filterMap given?).getLastD (f v) := by
  induction gestures generalizing v with
  | nil => rfl
  | cons g rest ih =>
    rw [run_cons, ih, one]
    cases given : given? g with
    | none => rw [List.filterMap_cons_none given, Option.getD_none]
    | some b => rw [List.filterMap_cons_some given, List.getLastD_cons, Option.getD_some]

/-- A value that one gesture inverts depends on how often the gesture is made. -/
theorem run_parity {β : Type} (f : ViewState → β) (inverting : Gesture) (invert : β → β)
    (twice : ∀ b, invert (invert b) = b)
    (one : ∀ v g, f (v.step g) = if g = inverting then invert (f v) else f v)
    (v : ViewState) (gestures : List Gesture) :
    f (v.run gestures) = if Even (gestures.count inverting) then f v else invert (f v) := by
  induction gestures generalizing v with
  | nil => simp [run]
  | cons g rest ih =>
    rw [run_cons, ih, one, List.count_cons]
    by_cases inverts : g = inverting
    · subst inverts
      by_cases even : Even (rest.count g) <;> simp [even, Nat.even_add_one, twice]
    · simp [inverts]

theorem criteria_run (v : ViewState) (gestures : List Gesture) :
    (v.run gestures).criteria =
      (gestures.filterMap Gesture.change?).foldl Criteria.after v.criteria := by
  induction gestures generalizing v with
  | nil => rfl
  | cons g rest ih =>
    rw [run_cons, ih]
    cases g <;> rfl

theorem order_step (v : ViewState) (g : Gesture) :
    (v.step g).arrangement.order =
      if g = .reverseRacks then v.arrangement.order.reversed else v.arrangement.order := by
  cases g with
  | flipRack rack => exact v.arrangement.order_flip rack
  | reverseRacks => rfl
  | load source => rfl
  | refine change => rfl
  | flipPanel => rfl
  | searchFacets q => rfl
  | openType t => rfl
  | closeDialog => rfl

/-- The view with the parts that do not matter to the racks as they are at the start. -/
def bare (v : ViewState) : ViewState :=
  ((v.ordered .ascending).withPanel .initial).withDialog .initial

theorem bare_step (v : ViewState) (g : Gesture) :
    (v.step g).bare = if g.onRacks then v.bare.step g else v.bare := by
  have kept : g.part ≠ .dialog → g.part ≠ .panel → g.part ≠ .search → g.part ≠ .order →
      (v.step g).bare = v.bare.step g := by
    intro dialog panel search order
    rw [bare, bare, step_withDialog _ _ dialog, step_withPanel _ _ panel search,
      step_ordered _ _ order]
  cases g with
  | load source => exact kept nofun nofun nofun nofun
  | refine change => exact kept nofun nofun nofun nofun
  | flipRack rack => exact kept nofun nofun nofun nofun
  | reverseRacks => rfl
  | flipPanel => rfl
  | searchFacets q => rfl
  | openType t => rfl
  | closeDialog => rfl

theorem bare_run (v : ViewState) (gestures : List Gesture) :
    (v.run gestures).bare = v.bare.run (gestures.filter Gesture.onRacks) := by
  induction gestures generalizing v with
  | nil => rfl
  | cons g rest ih =>
    rw [run_cons, ih, bare_step]
    by_cases about : g.onRacks
    · rw [if_pos about, List.filter_cons_of_pos about, run_cons]
    · rw [if_neg about, List.filter_cons_of_neg about]

end ViewState

/-- What the parts of a view owe to the gestures of a history. -/
structure PartByPart (h : History) : Prop where
  criteria : h.view.criteria = (h.gestures.filterMap Gesture.change?).foldl Criteria.after .empty
  source : h.view.catalog.source = h.last
  items : h.view.catalog.items = h.last.content.items
  visible : h.view.visible = h.view.criteria.places h.last.content.items
  states : h.view.arrangement.isExpanded? =
    ((ViewState.initial h.first).run
      (h.gestures.filter Gesture.onRacks)).arrangement.isExpanded?
  order : h.view.arrangement.order =
    if Even (h.gestures.count .reverseRacks) then .ascending else .descending
  isOpen : h.view.panel.isOpen = true ↔ Odd (h.gestures.count .flipPanel)
  queries : h.view.panel.queries = (h.gestures.filterMap Gesture.queries?).getLastD .empty
  content : h.view.dialog.content = (h.gestures.filterMap Gesture.opened?).getLast?
  dialogIsOpen : h.view.dialog.isOpen = (h.gestures.filterMap Gesture.opens?).getLastD false

theorem History.partByPart (h : History) : PartByPart h where
  criteria := ViewState.criteria_run _ _
  source := h.source_eq_last
  items := by rw [h.view_settled.items, h.source_eq_last]
  visible := by rw [h.view_settled.visible, h.view_settled.items, h.source_eq_last]
  states := by
    have bare := (ViewState.initial h.first).bare_run h.gestures
    exact congrArg (·.arrangement.isExpanded?) bare
  order := ViewState.run_parity (·.arrangement.order) .reverseRacks RackOrder.reversed
    (by intro o; cases o <;> rfl) ViewState.order_step _ _
  isOpen := by
    have parity := ViewState.run_parity (·.panel.isOpen) .flipPanel not Bool.not_not
      (by intro v g; cases g <;> rfl) (.initial h.first) h.gestures
    have closed : (ViewState.initial h.first).panel.isOpen = false := rfl
    rw [← Nat.not_even_iff_odd, History.view, parity, closed]
    by_cases even : Even (h.gestures.count .flipPanel) <;> simp [even]
  queries := ViewState.run_last (·.panel.queries) Gesture.queries?
    (by intro v g; cases g <;> rfl) _ _
  content := by
    have last := ViewState.run_last (·.dialog.content) (·.opened?.map some)
      (by intro v g; cases g <;> rfl) (.initial h.first) h.gestures
    have nothing : (ViewState.initial h.first).dialog.content = none := rfl
    rw [nothing, ← List.map_filterMap, List.getLastD_eq_getLast?, List.getLast?_map] at last
    rw [History.view, last]
    cases (h.gestures.filterMap Gesture.opened?).getLast? <;> rfl
  dialogIsOpen := ViewState.run_last (·.dialog.isOpen) Gesture.opens?
    (by intro v g; cases g <;> rfl) _ _

namespace ViewState

variable {v : ViewState} {a b g : Gesture} {rack : String}

/-- Whether a gesture brings a rack into sight. -/
def Reveals (v : ViewState) (g : Gesture) (rack : String) : Prop :=
  rack ∉ v.shownRacks ∧ rack ∈ (v.step g).shownRacks

/-- Whether one gesture flips a rack that the other brings into sight. -/
def Clash (v : ViewState) (a b : Gesture) : Prop :=
  ∃ rack, a = .flipRack rack ∧ v.Reveals b rack

theorem Reveals.part (h : v.Reveals g rack) : g.part = .selection := by
  by_contra other
  have same := v.step_shownRacks other
  exact h.1 (same ▸ h.2)

theorem Clash.parts (h : v.Clash a b) : a.part = .racks ∧ b.part = .selection := by
  obtain ⟨rack, rfl, reveals⟩ := h
  exact ⟨rfl, reveals.part⟩

theorem step_openType_comm (v : ViewState) (t : EquipmentType) (h : g.part ≠ .dialog) :
    (v.step (.openType t)).step g = (v.step g).step (.openType t) :=
  v.step_withDialog _ h

theorem step_closeDialog_comm (v : ViewState) (h : g.part ≠ .dialog) :
    (v.step .closeDialog).step g = (v.step g).step .closeDialog := by
  have kept : v.step g = (v.step g).withDialog v.dialog := v.step_withDialog v.dialog h
  have dialog : (v.step g).dialog = v.dialog := congrArg (·.dialog) kept
  change (v.withDialog v.dialog.close).step g = (v.step g).withDialog (v.step g).dialog.close
  rw [v.step_withDialog _ h, dialog]

theorem step_flipPanel_comm (v : ViewState) (h : g.part ≠ .panel) :
    (v.step .flipPanel).step g = (v.step g).step .flipPanel := by
  by_cases search : g.part = .search
  · cases g with
    | searchFacets q => rfl
    | _ => cases search
  · have kept : v.step g = (v.step g).withPanel v.panel := v.step_withPanel v.panel h search
    have panel : (v.step g).panel = v.panel := congrArg (·.panel) kept
    change (v.withPanel v.panel.flip).step g = (v.step g).withPanel (v.step g).panel.flip
    rw [v.step_withPanel _ h search, panel]

theorem step_searchFacets_comm (v : ViewState) (q : FacetQueries) (h : g.part ≠ .search) :
    (v.step (.searchFacets q)).step g = (v.step g).step (.searchFacets q) := by
  by_cases panel : g.part = .panel
  · cases g with
    | flipPanel => rfl
    | _ => cases panel
  · have kept : v.step g = (v.step g).withPanel v.panel := v.step_withPanel v.panel panel h
    have same : (v.step g).panel = v.panel := congrArg (·.panel) kept
    change (v.withPanel { v.panel with queries := q }).step g =
      (v.step g).withPanel { (v.step g).panel with queries := q }
    rw [v.step_withPanel _ panel h, same]

theorem step_reverseRacks_comm (v : ViewState) (h : g.part ≠ .order) :
    (v.step .reverseRacks).step g = (v.step g).step .reverseRacks := by
  have kept : v.step g = (v.step g).ordered v.arrangement.order :=
    v.step_ordered v.arrangement.order h
  have order : (v.step g).arrangement.order = v.arrangement.order :=
    congrArg (·.arrangement.order) kept
  change (v.ordered v.arrangement.order.reversed).step g =
    (v.step g).ordered (v.step g).arrangement.order.reversed
  rw [v.step_ordered _ h, order]

theorem step_flipRack_of_hidden (h : v.Settled) (hidden : rack ∉ v.shownRacks) :
    v.step (.flipRack rack) = v := by
  have unknown : rack ∉ v.arrangement.known := fun known => hidden ((h.known rack).mp known)
  change { v with arrangement := v.arrangement.flip rack } = v
  rw [Arrangement.flip_of_unknown unknown]

/-- A flip and a gesture that decides what is shown, unless it brings the rack into sight. -/
theorem step_flipRack_comm (h : v.Settled) (about : g.part = .selection)
    (unrevealed : ¬ v.Reveals g rack) :
    (v.step (.flipRack rack)).step g = (v.step g).step (.flipRack rack) := by
  have known : rack ∈ (v.step g).shownRacks → rack ∈ v.arrangement.known := by
    intro shown
    by_contra unknown
    exact unrevealed ⟨fun earlier => unknown ((h.known rack).mpr earlier), shown⟩
  have arranged := Arrangement.showing_flip known
  cases g with
  | load source =>
    exact congrArg (fun arrangement => { v.step (.load source) with arrangement }) arranged
  | refine change =>
    exact congrArg (fun arrangement => { v.step (.refine change) with arrangement }) arranged
  | _ => cases about

/-- A rack that comes into sight is collapsed by a flip after that, not by a flip before. -/
theorem isExpanded?_of_reveals (h : v.Settled) (reveals : v.Reveals g rack) :
    ((v.step (.flipRack rack)).step g).arrangement.isExpanded? rack = some true ∧
      ((v.step g).step (.flipRack rack)).arrangement.isExpanded? rack = some false := by
  have expanded : (v.step g).arrangement.isExpanded? rack = some true :=
    isExpanded?_step_of_hidden h reveals.1 reveals.2
  refine ⟨?_, ?_⟩
  · rw [step_flipRack_of_hidden h reveals.1]
    exact expanded
  · change ((v.step g).arrangement.flip rack).isExpanded? rack = some false
    rw [Arrangement.isExpanded?_flip, if_pos rfl, expanded]
    rfl

theorem step_flipRack_comm_iff (h : v.Settled) (about : g.part = .selection) :
    (v.step (.flipRack rack)).step g = (v.step g).step (.flipRack rack) ↔ ¬ v.Reveals g rack := by
  constructor
  · intro same reveals
    obtain ⟨before, after⟩ := isExpanded?_of_reveals h reveals
    rw [same, after] at before
    cases before
  · exact step_flipRack_comm h about

theorem clash_flipRack_iff : v.Clash (.flipRack rack) g ↔ v.Reveals g rack := by
  constructor
  · rintro ⟨flipped, same, reveals⟩
    cases same
    exact reveals
  · intro reveals
    exact ⟨rack, rfl, reveals⟩

/-- Gestures commute with those on other parts if they do not matter to the racks. -/
theorem step_comm_of_not_onRacks (v : ViewState) (h : ¬ a.onRacks) (different : a.part ≠ b.part) :
    (v.step a).step b = (v.step b).step a := by
  cases a with
  | load source => exact absurd rfl h
  | refine change => exact absurd rfl h
  | flipRack rack => exact absurd rfl h
  | reverseRacks => exact v.step_reverseRacks_comm different.symm
  | flipPanel => exact v.step_flipPanel_comm different.symm
  | searchFacets q => exact v.step_searchFacets_comm q different.symm
  | openType t => exact v.step_openType_comm t different.symm
  | closeDialog => exact v.step_closeDialog_comm different.symm

theorem step_comm_iff_of_flips (h : v.Settled) (flips : a.part = .racks)
    (selects : b.part = .selection) :
    (v.step a).step b = (v.step b).step a ↔ ¬ v.Clash a b ∧ ¬ v.Clash b a := by
  have other : ¬ v.Clash b a := by
    intro clash
    have := clash.parts.1
    simp [selects] at this
  cases a with
  | flipRack rack => rw [step_flipRack_comm_iff h selects, clash_flipRack_iff, and_iff_left other]
  | _ => cases flips

/-- Gestures on different parts commute unless one flips a rack that the other brings into sight. -/
theorem step_comm_iff (h : v.Settled) (different : a.part ≠ b.part) :
    (v.step a).step b = (v.step b).step a ↔ ¬ v.Clash a b ∧ ¬ v.Clash b a := by
  by_cases ab : a.part = .racks ∧ b.part = .selection
  · exact step_comm_iff_of_flips h ab.1 ab.2
  · by_cases ba : b.part = .racks ∧ a.part = .selection
    · rw [eq_comm, and_comm]
      exact step_comm_iff_of_flips h ba.1 ba.2
    · have apart : ¬ v.Clash a b ∧ ¬ v.Clash b a := ⟨mt Clash.parts ab, mt Clash.parts ba⟩
      refine iff_of_true ?_ apart
      by_cases first : a.onRacks
      · have second : ¬ b.onRacks := by
          intro second
          rcases Gesture.onRacks_iff.mp first with e | e
          · rcases Gesture.onRacks_iff.mp second with f | f
            · exact different (e.trans f.symm)
            · exact ba ⟨f, e⟩
          · rcases Gesture.onRacks_iff.mp second with f | f
            · exact ab ⟨e, f⟩
            · exact different (e.trans f.symm)
        exact (v.step_comm_of_not_onRacks second different.symm).symm
      · exact v.step_comm_of_not_onRacks first different

end ViewState

/-- Every part of a view is told by the gestures on it, and gestures on different parts commute with
one exception: a flip of a rack and a gesture that brings the rack into sight. -/
theorem parts_independent (h : History) :
    PartByPart h ∧
    (∀ a b : Gesture, a.part ≠ b.part →
      ((h.view.step a).step b = (h.view.step b).step a ↔
        ¬ h.view.Clash a b ∧ ¬ h.view.Clash b a)) ∧
    (∀ g rack, h.view.Reveals g rack → g.part = .selection ∧
      ((h.view.step (.flipRack rack)).step g).arrangement.isExpanded? rack = some true ∧
      ((h.view.step g).step (.flipRack rack)).arrangement.isExpanded? rack = some false) := by
  refine ⟨h.partByPart, ?_, ?_⟩
  · intro a b different
    exact ViewState.step_comm_iff h.view_settled different
  · intro g rack reveals
    exact ⟨reveals.part, ViewState.isExpanded?_of_reveals h.view_settled reveals⟩

def Equipment.machine (name : String) : Equipment where
  name := name
  type := ⟨"node", none, none, none, none, none, none, [], [], []⟩
  rack := none
  slot := none
  position := none
  tags := []

def History.oneRackHidden : History where
  first := ⟨0, ⟨"mercury", none, [],
    [⟨"R01", [.machine "cn1"], [], [], []⟩, ⟨"R02", [.machine "cn2"], [], [], []⟩]⟩⟩
  gestures := [.refine (.add (.rack "R01"))]
  coherent := by
    intro a ha b hb _
    exact (List.mem_singleton.mp ha).trans (List.mem_singleton.mp hb).symm

theorem flip_around_clearing :
    History.oneRackHidden.view.Reveals (.refine .clearAll) "R02" ∧
      ((History.oneRackHidden.view.step (.flipRack "R02")).step
        (.refine .clearAll)).arrangement.isExpanded? "R02" = some true ∧
      ((History.oneRackHidden.view.step (.refine .clearAll)).step
        (.flipRack "R02")).arrangement.isExpanded? "R02" = some false := by
  have reveals : History.oneRackHidden.view.Reveals (.refine .clearAll) "R02" :=
    ⟨by decide, by decide⟩
  exact ⟨reveals, ((parts_independent History.oneRackHidden).2.2 _ _ reveals).2⟩

end RackInventory
