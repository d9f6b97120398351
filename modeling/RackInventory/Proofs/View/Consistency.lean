import RackInventory.Proofs.Filter.Matching
import RackInventory.Proofs.View.Arrangement
import RackInventory.View.Basic

/-!
# What holds of a view after any gestures

A view stays settled: its items are those of the infrastructure it holds, its places are those that
the criteria keep, and it knows exactly the racks that are shown. Settling is established at the
start and kept by every gesture, whether or not the gesture finds the places again.

A history is a first load and the gestures after it. A loaded value is shared and never changes, so
in one history an identity has one content. Nothing is said about how expanded racks came to be so.
-/

namespace RackInventory

namespace ViewState

/-- The items at the places that the criteria keep are the items that they keep. -/
theorem pick_places (c : Criteria) (items : List PlacedItem) :
    pick items (c.places items) = c.select items := by
  have each : pick items (c.places items) = ((c.places items).map (items[·]?)).filterMap id := by
    rw [List.filterMap_map]
    rfl
  rw [each, c.map_places, List.filterMap_map, Function.id_comp, List.filterMap_some]

def shownRacks (v : ViewState) : List String := v.shown.map (·.rack)

/-- What every gesture keeps. -/
structure Settled (v : ViewState) : Prop where
  items : v.catalog.items = v.catalog.source.content.items
  visible : v.visible = v.criteria.places v.catalog.items
  known : ∀ rack, rack ∈ v.arrangement.known ↔ rack ∈ v.shownRacks

theorem settled_settled {v : ViewState}
    (items : v.catalog.items = v.catalog.source.content.items) : v.settled.Settled where
  items := items
  visible := rfl
  known := fun _ => Arrangement.mem_known_showing

theorem initial_settled (source : Loaded Infrastructure) : (initial source).Settled :=
  settled_settled rfl

theorem load_items {c : Catalog} (items : c.items = c.source.content.items)
    (source : Loaded Infrastructure) :
    (c.load source).items = (c.load source).source.content.items := by
  unfold Catalog.load
  split
  · rfl
  · exact items

theorem step_settled {v : ViewState} (h : v.Settled) (g : Gesture) : (v.step g).Settled := by
  cases g with
  | load source => exact settled_settled (load_items h.items source)
  | refine change => exact settled_settled h.items
  | flipRack rack =>
    refine ⟨h.items, h.visible, ?_⟩
    intro shown
    change shown ∈ (v.arrangement.flip rack).known ↔ _
    rw [Arrangement.known_flip]
    exact h.known shown
  | reverseRacks => exact ⟨h.items, h.visible, h.known⟩
  | flipPanel => exact ⟨h.items, h.visible, h.known⟩
  | searchFacets q => exact ⟨h.items, h.visible, h.known⟩
  | openType t => exact ⟨h.items, h.visible, h.known⟩
  | closeDialog => exact ⟨h.items, h.visible, h.known⟩

theorem run_cons (v : ViewState) (g : Gesture) (rest : List Gesture) :
    v.run (g :: rest) = (v.step g).run rest := rfl

theorem run_settled {v : ViewState} (h : v.Settled) (gestures : List Gesture) :
    (v.run gestures).Settled := by
  induction gestures generalizing v with
  | nil => exact h
  | cons g rest ih => exact ih (step_settled h g)

theorem shown_eq {v : ViewState} (h : v.Settled) :
    v.shown = v.criteria.select v.catalog.items := by
  rw [shown, h.visible, pick_places]

theorem isExpanded?_isSome_iff {v : ViewState} (h : v.Settled) {rack : String} :
    (v.arrangement.isExpanded? rack).isSome ↔ rack ∈ v.shownRacks := by
  rw [Option.isSome_iff_ne_none, Ne, Arrangement.isExpanded?_eq_none_iff, not_not]
  exact h.known rack

/-- Each section shows a state that the arrangement holds, never one made up for the occasion. -/
theorem isExpanded?_of_section {v : ViewState} (h : v.Settled) {s : RackSection}
    (mem : s ∈ v.sections) : v.arrangement.isExpanded? s.rack = some s.expanded := by
  have shown : s.rack ∈ v.shownRacks := Arrangement.exists_mem_sections.mp ⟨s, mem, rfl⟩
  obtain ⟨expanded, eq⟩ := Option.isSome_iff_exists.mp ((isExpanded?_isSome_iff h).mpr shown)
  have same : s.expanded = (v.arrangement.isExpanded? s.rack).getD true :=
    congrArg RackSection.expanded (Arrangement.eq_sectionOf_of_mem mem)
  rw [same, eq]
  rfl

end ViewState

def Gesture.source? : Gesture → Option (Loaded Infrastructure)
  | .load source => some source
  | _ => none

/-- Whether an identity has one content. -/
def Coherent (sources : List (Loaded Infrastructure)) : Prop :=
  ∀ a ∈ sources, ∀ b ∈ sources, a.identity = b.identity → a = b

/-- A first load and the gestures after it. -/
structure History where
  first : Loaded Infrastructure
  gestures : List Gesture
  coherent : Coherent (first :: gestures.filterMap Gesture.source?)

namespace History

def view (h : History) : ViewState := (ViewState.initial h.first).run h.gestures

def last (h : History) : Loaded Infrastructure :=
  (h.gestures.filterMap Gesture.source?).getLastD h.first

theorem view_settled (h : History) : h.view.Settled :=
  ViewState.run_settled (ViewState.initial_settled h.first) h.gestures

end History

theorem Coherent.tail {a : Loaded Infrastructure} {rest : List (Loaded Infrastructure)}
    (h : Coherent (a :: rest)) : Coherent rest :=
  fun b hb c hc => h b (List.mem_cons_of_mem a hb) c (List.mem_cons_of_mem a hc)

/-- Loading what is held already keeps it, which is then also what was loaded. -/
theorem Catalog.load_source {c : Catalog} {source : Loaded Infrastructure}
    (coherent : c.source.identity = source.identity → c.source = source) :
    (c.load source).source = source := by
  unfold Catalog.load isStale
  by_cases same : c.source.identity = source.identity
  · simp [coherent same]
  · simp [same, ofLoaded]

theorem Coherent.next {a : Loaded Infrastructure} {g : Gesture} {rest : List Gesture}
    (h : Coherent (a :: (g :: rest).filterMap Gesture.source?)) :
    ∀ source ∈ g.source?, a.identity = source.identity → a = source := by
  intro source given
  have loaded : source ∈ (g :: rest).filterMap Gesture.source? :=
    List.mem_filterMap.mpr ⟨g, List.mem_cons_self, given⟩
  exact h a List.mem_cons_self source (List.mem_cons_of_mem a loaded)

theorem ViewState.source_step {v : ViewState} {g : Gesture}
    (coherent : ∀ source ∈ g.source?, v.catalog.source.identity = source.identity →
      v.catalog.source = source) :
    (v.step g).catalog.source = g.source?.getD v.catalog.source := by
  cases g with
  | load source => exact Catalog.load_source (coherent source rfl)
  | refine change => rfl
  | flipRack rack => rfl
  | reverseRacks => rfl
  | flipPanel => rfl
  | searchFacets q => rfl
  | openType t => rfl
  | closeDialog => rfl

theorem ViewState.coherent_step {v : ViewState} {g : Gesture} {rest : List Gesture}
    (coherent : Coherent (v.catalog.source :: (g :: rest).filterMap Gesture.source?)) :
    Coherent ((v.step g).catalog.source :: rest.filterMap Gesture.source?) := by
  rw [source_step coherent.next]
  cases given : g.source? with
  | none => rwa [List.filterMap_cons_none given] at coherent
  | some source =>
    rw [List.filterMap_cons_some given] at coherent
    exact coherent.tail

theorem ViewState.source_run {v : ViewState} {gestures : List Gesture}
    (coherent : Coherent (v.catalog.source :: gestures.filterMap Gesture.source?)) :
    (v.run gestures).catalog.source =
      (gestures.filterMap Gesture.source?).getLastD v.catalog.source := by
  induction gestures generalizing v with
  | nil => rfl
  | cons g rest ih =>
    rw [run_cons, ih (coherent_step coherent), source_step coherent.next]
    cases given : g.source? with
    | none => rw [List.filterMap_cons_none given, Option.getD_none]
    | some source => rw [List.filterMap_cons_some given, List.getLastD_cons, Option.getD_some]

theorem History.source_eq_last (h : History) : h.view.catalog.source = h.last :=
  ViewState.source_run h.coherent

/-- What a view of `source` shows, in terms of its items and its criteria. -/
structure Consistent (source : Infrastructure) (v : ViewState) : Prop where
  items : v.catalog.items = source.items
  ascending : v.visible.Pairwise (· < ·)
  mem_visible : ∀ place, place ∈ v.visible ↔
    ∃ item, v.catalog.items[place]? = some item ∧ v.criteria.keeps item = true
  in_range : ∀ place ∈ v.visible, place < v.catalog.items.length
  shown : v.shown = v.criteria.select v.catalog.items
  flagged : ∀ rack, (v.arrangement.isExpanded? rack).isSome ↔ ∃ item ∈ v.shown, item.rack = rack
  no_fallback : ∀ s ∈ v.sections, v.arrangement.isExpanded? s.rack = some s.expanded
  count : v.shownCount = v.visible.length
  isEmpty : v.isEmpty = true ↔ v.sections = []

theorem ViewState.isEmpty_iff_sections {v : ViewState} (h : v.Settled) :
    v.isEmpty = true ↔ v.sections = [] := by
  have places : v.shown = [] ↔ v.visible = [] := by
    rw [shown_eq h, h.visible, Criteria.select, Criteria.places]
    simp only [List.map_eq_nil_iff, List.filter_eq_nil_iff]
    constructor
    · intro none i hi
      exact none i.1 (List.fst_mem_of_mem_zipIdx hi)
    · intro none item hitem
      obtain ⟨place, _, here⟩ := List.getElem_of_mem hitem
      exact none (item, place) (List.mem_zipIdx_iff_getElem?.mpr (by simp [← here]))
  rw [isEmpty, List.isEmpty_iff, sections, Arrangement.sections_eq_nil_iff, places]

/-- After any history the view is consistent with what was loaded last. -/
theorem history_consistent (h : History) : Consistent h.last.content h.view := by
  have settled := h.view_settled
  have member : ∀ place, place ∈ h.view.visible ↔
      ∃ item, h.view.catalog.items[place]? = some item ∧ h.view.criteria.keeps item = true := by
    intro place
    rw [settled.visible]
    exact Criteria.mem_places
  refine ⟨?_, ?_, member, ?_, ViewState.shown_eq settled, ?_, ?_, rfl,
    ViewState.isEmpty_iff_sections settled⟩
  · rw [settled.items, h.source_eq_last]
  · rw [settled.visible]
    exact Criteria.places_ascending _ _
  · intro place hplace
    obtain ⟨item, here, _⟩ := (member place).mp hplace
    exact (List.getElem?_eq_some_iff.mp here).1
  · intro rack
    rw [ViewState.isExpanded?_isSome_iff settled, ViewState.shownRacks, List.mem_map]
  · intro s mem
    exact ViewState.isExpanded?_of_section settled mem

end RackInventory
