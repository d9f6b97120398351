import Mathlib.Data.List.Count
import RackInventory.Console.Execution
import RackInventory.Proofs.Filter.Matching
import RackInventory.Proofs.View.Independence

/-!
# The page of an infrastructure from the command line

The arguments of the command are replayed on a fresh view one gesture after the other, and each
gesture finds the items again and changes which racks are known. The view that they lead to is
nevertheless described by the arguments at once: its criteria have the values that are given, an
item is shown when it satisfies each list that is not empty, and a rack is collapsed when it is
given an odd number of times. Nothing is collapsed before the last argument that hides racks, so no
state is lost in between.

A value that is given twice selects what it selects once. This is not so for the racks to collapse,
which are expanded again when they are given twice.
-/

namespace RackInventory

namespace ViewState

theorem collapsed_step {v : ViewState} (none : v.arrangement.collapsed = .empty) {g : Gesture}
    (unflipped : g.part ≠ .racks) : (v.step g).arrangement.collapsed = .empty := by
  have shown : ∀ racks, (v.arrangement.showing racks).collapsed = .empty := by
    intro racks
    change v.arrangement.collapsed.filter _ = _
    rw [none]
    rfl
  cases g with
  | load source => exact shown _
  | refine change => exact shown _
  | flipRack rack => exact absurd rfl unflipped
  | reverseRacks => exact none
  | flipPanel => exact none
  | searchFacets q => exact none
  | openType t => exact none
  | closeDialog => exact none

theorem collapsed_run {v : ViewState} (none : v.arrangement.collapsed = .empty)
    {gestures : List Gesture} (unflipped : ∀ g ∈ gestures, g.part ≠ .racks) :
    (v.run gestures).arrangement.collapsed = .empty := by
  induction gestures generalizing v with
  | nil => exact none
  | cons g rest ih =>
    rw [List.forall_mem_cons] at unflipped
    exact ih (collapsed_step none unflipped.1) unflipped.2

theorem isExpanded?_of_collapsed {v : ViewState} (h : v.Settled)
    (none : v.arrangement.collapsed = .empty) {rack : String} (shown : rack ∈ v.shownRacks) :
    v.arrangement.isExpanded? rack = some true := by
  have expanded : rack ∉ v.arrangement.collapsed := by
    rw [none]
    exact List.not_mem_nil
  rw [Arrangement.isExpanded?, if_pos ((h.known rack).mpr shown)]
  simpa using expanded

theorem shownRacks_run_flips (v : ViewState) (racks : List String) :
    (v.run (racks.map .flipRack)).shownRacks = v.shownRacks := by
  induction racks generalizing v with
  | nil => rfl
  | cons rack rest ih =>
    exact (ih (v.step (.flipRack rack))).trans (step_shownRacks v nofun)

/-- Flips made after all other gestures are all that counts. -/
theorem isExpanded?_run_flips {v : ViewState} (h : v.Settled)
    (none : v.arrangement.collapsed = .empty) (racks : List String) {rack : String}
    (shown : rack ∈ v.shownRacks) :
    (v.run (racks.map .flipRack)).arrangement.isExpanded? rack =
      some (decide (Even (racks.count rack))) := by
  have still : ∀ j ≤ (racks.map Gesture.flipRack).length,
      rack ∈ (v.run ((racks.map Gesture.flipRack).take j)).shownRacks := by
    intro j _
    rwa [← List.map_take, shownRacks_run_flips]
  have count : (racks.map Gesture.flipRack).count (.flipRack rack) = racks.count rack :=
    List.count_map_of_injective _ _ (fun _ _ => Gesture.flipRack.inj) _
  rw [isExpanded?_run h (isExpanded?_of_collapsed h none shown) _ still, count]
  by_cases even : Even (racks.count rack) <;> simp [even]

end ViewState

namespace EquipmentArguments

def settings (a : EquipmentArguments) : List Gesture :=
  a.selections.map (.refine ∘ .add) ++ a.nameQuery.toList.map (.refine ∘ .seek) ++
    if a.descending then [.reverseRacks] else []

theorem part_of_settings {a : EquipmentArguments} {g : Gesture} (h : g ∈ a.settings) :
    g.part ≠ .racks := by
  rw [settings, List.mem_append, List.mem_append, List.mem_map, List.mem_map] at h
  rcases h with (⟨s, _, rfl⟩ | ⟨q, _, rfl⟩) | h
  · nofun
  · nofun
  · split at h
    · cases List.mem_singleton.mp h
      nofun
    · cases h

theorem filterMap_gestures {β : Type} (f : Gesture → Option β) (a : EquipmentArguments) :
    a.gestures.filterMap f =
      a.selections.filterMap (fun s => f (.refine (.add s))) ++
        a.nameQuery.toList.filterMap (fun q => f (.refine (.seek q))) ++
        (if a.descending then [Gesture.reverseRacks].filterMap f else []) ++
        a.collapsed.filterMap (fun rack => f (.flipRack rack)) := by
  rw [gestures, List.filterMap_append, List.filterMap_append, List.filterMap_append,
    List.filterMap_map, List.filterMap_map, List.filterMap_map, apply_ite (List.filterMap f)]
  rfl

theorem changes (a : EquipmentArguments) :
    a.gestures.filterMap Gesture.change? =
      a.selections.map .add ++ a.nameQuery.toList.map .seek := by
  rw [filterMap_gestures]
  simp [Gesture.change?]

theorem sources (a : EquipmentArguments) : a.gestures.filterMap Gesture.source? = [] := by
  rw [filterMap_gestures]
  simp [Gesture.source?]

theorem count_reverseRacks (a : EquipmentArguments) :
    a.gestures.count .reverseRacks = if a.descending then 1 else 0 := by
  have selections : (a.selections.map (Gesture.refine ∘ .add)).count .reverseRacks = 0 :=
    List.count_eq_zero.mpr (by simp)
  have query : (a.nameQuery.toList.map (Gesture.refine ∘ .seek)).count .reverseRacks = 0 :=
    List.count_eq_zero.mpr (by simp)
  have collapsed : (a.collapsed.map Gesture.flipRack).count .reverseRacks = 0 :=
    List.count_eq_zero.mpr (by simp)
  rw [gestures, List.count_append, List.count_append, List.count_append, selections, query,
    collapsed]
  split <;> rfl

def history (i : Infrastructure) (a : EquipmentArguments) : History where
  first := ⟨0, i⟩
  gestures := a.gestures
  coherent := by
    rw [a.sources]
    rintro x hx y hy _
    rw [List.mem_singleton.mp hx, List.mem_singleton.mp hy]

end EquipmentArguments

/-- A view of an infrastructure has the values that the arguments give. -/
structure EquipmentArguments.GivenIn (a : EquipmentArguments) (c : Criteria) : Prop where
  racks : ∀ r, r ∈ c.racks ↔ r ∈ a.racks
  types : ∀ t, t ∈ c.equipmentTypes ↔ t ∈ a.types
  categories : ∀ k, k ∈ c.categories ↔ k ∈ a.categories
  tags : ∀ t, t ∈ c.tags ↔ t ∈ a.tags
  nameQuery : c.nameQuery = a.nameQuery.getD ""

/-- Whether an item satisfies each list that is not empty, and the text to look for. -/
def EquipmentArguments.Shows (a : EquipmentArguments) (e : PlacedItem) : Prop :=
  (a.racks ≠ [] → e.rack ∈ a.racks) ∧
  (a.types ≠ [] → e.typeId ∈ a.types) ∧
  (a.categories ≠ [] → e.category ∈ a.categories) ∧
  (a.tags ≠ [] → ∃ t ∈ e.tags, t ∈ a.tags) ∧
  (a.nameQuery.getD "" ≠ "" → containsIgnoringCase e.name (a.nameQuery.getD "") = true)

instance (a : EquipmentArguments) (e : PlacedItem) : Decidable (a.Shows e) :=
  inferInstanceAs (Decidable (_ ∧ _))

/-- Whether two lines of arguments give the same values, however often and in whatever order. -/
structure EquipmentArguments.SameValues (a b : EquipmentArguments) : Prop where
  name : a.name = b.name
  racks : ∀ r, r ∈ a.racks ↔ r ∈ b.racks
  types : ∀ t, t ∈ a.types ↔ t ∈ b.types
  categories : ∀ k, k ∈ a.categories ↔ k ∈ b.categories
  tags : ∀ t, t ∈ a.tags ↔ t ∈ b.tags
  nameQuery : a.nameQuery = b.nameQuery
  descending : a.descending = b.descending
  collapsed : a.collapsed = b.collapsed

theorem OrderedSet.ne_empty_iff_of_mem {α : Type} [LT α] {s : OrderedSet α} {l : List α}
    (same : ∀ a, a ∈ s ↔ a ∈ l) : s ≠ .empty ↔ l ≠ [] := by
  rw [ne_empty_iff, ← List.isEmpty_eq_false_iff, List.isEmpty_eq_false_iff_exists_mem]
  exact exists_congr same

theorem EquipmentArguments.GivenIn.keeps_iff {a : EquipmentArguments} {c : Criteria}
    (h : a.GivenIn c) {e : PlacedItem} : c.keeps e = true ↔ a.Shows e := by
  have tag : (∃ t ∈ e.tags, t ∈ c.tags) ↔ ∃ t ∈ e.tags, t ∈ a.tags :=
    exists_congr fun t => and_congr_right fun _ => h.tags t
  rw [Criteria.keeps_iff, OrderedSet.ne_empty_iff_of_mem h.racks,
    OrderedSet.ne_empty_iff_of_mem h.types, OrderedSet.ne_empty_iff_of_mem h.categories,
    OrderedSet.ne_empty_iff_of_mem h.tags, h.racks, h.types, h.categories, tag, h.nameQuery,
    EquipmentArguments.Shows]

/-- The values that are given are all there is to criteria. -/
theorem EquipmentArguments.SameValues.criteria_eq {a b : EquipmentArguments} (h : a.SameValues b)
    {c d : Criteria} (given : a.GivenIn c) (also : b.GivenIn d) : c = d := by
  apply Criteria.eq_of_contains
  · intro s
    cases s with
    | rack r => simpa using (given.racks r).trans ((h.racks r).trans (also.racks r).symm)
    | equipmentType t => simpa using (given.types t).trans ((h.types t).trans (also.types t).symm)
    | category k =>
      simpa using (given.categories k).trans ((h.categories k).trans (also.categories k).symm)
    | tag t => simpa using (given.tags t).trans ((h.tags t).trans (also.tags t).symm)
  · rw [given.nameQuery, also.nameQuery, h.nameQuery]

namespace Command

variable {i : Infrastructure} {a b : EquipmentArguments}

theorem settled_viewOf (i : Infrastructure) (a : EquipmentArguments) : (viewOf i a).Settled :=
  (a.history i).view_settled

theorem catalog_viewOf (i : Infrastructure) (a : EquipmentArguments) :
    (viewOf i a).catalog.source.content = i ∧ (viewOf i a).catalog.items = i.items := by
  have source := (a.history i).partByPart.source
  have items := (a.history i).partByPart.items
  have last : (a.history i).last = ⟨0, i⟩ := by
    rw [History.last, show (a.history i).gestures = a.gestures from rfl, a.sources]
    rfl
  rw [last] at source items
  exact ⟨congrArg Loaded.content source, items⟩

theorem criteria_viewOf (i : Infrastructure) (a : EquipmentArguments) :
    (viewOf i a).criteria = (Criteria.selecting a.selections).seeking (a.nameQuery.getD "") := by
  have selected : (a.selections.map Criteria.Change.add).foldl Criteria.after .empty =
      Criteria.selecting a.selections := List.foldl_map
  have criteria : (viewOf i a).criteria =
      (a.gestures.filterMap Gesture.change?).foldl Criteria.after .empty :=
    (a.history i).partByPart.criteria
  rw [criteria, a.changes, List.foldl_append, selected]
  cases a.nameQuery with
  | none =>
    have blank := Criteria.nameQuery_selecting a.selections
    rw [Option.getD_none, Criteria.seeking, ← blank]
    rfl
  | some query => rfl

theorem given_viewOf (i : Infrastructure) (a : EquipmentArguments) :
    a.GivenIn (viewOf i a).criteria := by
  have contains : ∀ s, (viewOf i a).criteria.contains s ↔ s ∈ a.selections := by
    intro s
    rw [criteria_viewOf, ← Criteria.contains_selecting]
    cases s <;> rfl
  refine ⟨?_, ?_, ?_, ?_, ?_⟩
  · intro r
    simpa [EquipmentArguments.selections] using contains (.rack r)
  · intro t
    simpa [EquipmentArguments.selections] using contains (.equipmentType t)
  · intro k
    simpa [EquipmentArguments.selections] using contains (.category k)
  · intro t
    simpa [EquipmentArguments.selections] using contains (.tag t)
  · rw [criteria_viewOf]
    rfl

theorem order_viewOf (i : Infrastructure) (a : EquipmentArguments) :
    (viewOf i a).arrangement.order = if a.descending then .descending else .ascending := by
  have order : (viewOf i a).arrangement.order =
      if Even (a.gestures.count .reverseRacks) then .ascending else .descending :=
    (a.history i).partByPart.order
  rw [order, a.count_reverseRacks]
  cases a.descending <;> rfl

theorem shown_viewOf (i : Infrastructure) (a : EquipmentArguments) :
    (viewOf i a).shown = i.items.filter fun e => a.Shows e := by
  rw [ViewState.shown_eq (settled_viewOf i a), (catalog_viewOf i a).2]
  apply List.filter_congr
  intro e _
  rw [Bool.eq_iff_iff, (given_viewOf i a).keeps_iff, decide_eq_true_eq]

/-- A rack that is shown is collapsed when it is given an odd number of times. -/
theorem isExpanded?_viewOf {rack : String} (shown : rack ∈ (viewOf i a).shownRacks) :
    (viewOf i a).arrangement.isExpanded? rack = some (decide (Even (a.collapsed.count rack))) := by
  have split : viewOf i a =
      ((ViewState.initial ⟨0, i⟩).run a.settings).run (a.collapsed.map .flipRack) :=
    ViewState.run_append _ _ _
  rw [split, ViewState.shownRacks_run_flips] at shown
  rw [split]
  exact ViewState.isExpanded?_run_flips
    (ViewState.run_settled (ViewState.initial_settled _) _)
    (ViewState.collapsed_run rfl fun _ => EquipmentArguments.part_of_settings) _ shown

theorem sections_viewOf (h : a.SameValues b) (i : Infrastructure) :
    (viewOf i a).sections = (viewOf i b).sections := by
  have criteria := h.criteria_eq (given_viewOf i a) (given_viewOf i b)
  have shown : (viewOf i a).shown = (viewOf i b).shown := by
    rw [ViewState.shown_eq (settled_viewOf i a), ViewState.shown_eq (settled_viewOf i b), criteria,
      (catalog_viewOf i a).2, (catalog_viewOf i b).2]
  have racks : (viewOf i a).shownRacks = (viewOf i b).shownRacks :=
    congrArg (List.map PlacedItem.rack) shown
  have arrangement : (viewOf i a).arrangement = (viewOf i b).arrangement := by
    apply Arrangement.eq_of_isExpanded?
    · rw [order_viewOf, order_viewOf, h.descending]
    · intro rack
      by_cases mem : rack ∈ (viewOf i a).shownRacks
      · rw [isExpanded?_viewOf mem, isExpanded?_viewOf (racks ▸ mem), h.collapsed]
      · rw [ViewState.isExpanded?_eq (settled_viewOf i a), if_neg mem,
          ViewState.isExpanded?_eq (settled_viewOf i b), if_neg (racks ▸ mem)]
  rw [ViewState.sections, ViewState.sections, shown, arrangement]

/-- The page depends on the values that are given, not on how they are given. -/
theorem page_viewOf (h : a.SameValues b) (i : Infrastructure) :
    Page.ofView (viewOf i a) = Page.ofView (viewOf i b) := by
  rw [Page.ofView, Page.ofView, sections_viewOf h,
    h.criteria_eq (given_viewOf i a) (given_viewOf i b), ViewState.infrastructure,
    ViewState.infrastructure, (catalog_viewOf i a).1, (catalog_viewOf i b).1]

theorem execute_infrastructure (h : a.SameValues b) (client : Client) :
    execute client (.infrastructure a) = execute client (.infrastructure b) := by
  have pages : (fun i => pure (Page.ofView (viewOf i a)) : Infrastructure → Call Failure String) =
      fun i => pure (Page.ofView (viewOf i b)) :=
    funext fun i => congrArg pure (page_viewOf h i)
  rw [execute, execute, h.name, pages]

/-- The page of an infrastructure shows what the arguments say, whatever their order. -/
theorem page_says_what_is_given (i : Infrastructure) (a : EquipmentArguments) :
    a.GivenIn (viewOf i a).criteria ∧
    (viewOf i a).arrangement.order = (if a.descending then .descending else .ascending) ∧
    (viewOf i a).shown = i.items.filter (fun e => a.Shows e) ∧
    (∀ s ∈ (viewOf i a).sections, (s.expanded = true ↔ Even (a.collapsed.count s.rack))) ∧
    ∀ b : EquipmentArguments, a.SameValues b →
      Page.ofView (viewOf i b) = Page.ofView (viewOf i a) ∧
      ∀ client, execute client (.infrastructure b) = execute client (.infrastructure a) := by
  refine ⟨given_viewOf i a, order_viewOf i a, shown_viewOf i a, ?_, ?_⟩
  · intro s mem
    have shown : s.rack ∈ (viewOf i a).shownRacks :=
      Arrangement.exists_mem_sections.mp ⟨s, mem, rfl⟩
    have state := ViewState.isExpanded?_of_section (settled_viewOf i a) mem
    rw [isExpanded?_viewOf shown, Option.some.injEq] at state
    rw [← state, decide_eq_true_eq]
  · intro b same
    exact ⟨(page_viewOf same i).symm, fun client => (execute_infrastructure same client).symm⟩

namespace ThreeRacks

def rackOf (rack node : String) : RackLayout :=
  ⟨rack, [⟨node, ⟨"t", none, none, none, none, none, none, [], [], []⟩, none, none, none, []⟩], [], [],
    []⟩

def infrastructure : Infrastructure :=
  ⟨"lab", none, [], [rackOf "a" "cn1", rackOf "b" "cn2", rackOf "c" "cn3"]⟩

def arguments (racks : List String) : EquipmentArguments := ⟨"lab", racks, [], [], [], none, true, ["b"]⟩

theorem sameValues : (arguments ["a", "b", "a"]).SameValues (arguments ["b", "a"]) where
  name := rfl
  racks _ := by simp [arguments, or_comm]
  types _ := Iff.rfl
  categories _ := Iff.rfl
  tags _ := Iff.rfl
  nameQuery := rfl
  descending := rfl
  collapsed := rfl

/-- One rack is given twice and one is left out. -/
theorem page_of_repeated_rack :
    (viewOf infrastructure (arguments ["a", "b", "a"])).shown.map (·.name) = ["cn1", "cn2"] ∧
    (viewOf infrastructure (arguments ["a", "b", "a"])).sections.map (·.rack) = ["b", "a"] ∧
    Page.ofView (viewOf infrastructure (arguments ["b", "a"])) =
      Page.ofView (viewOf infrastructure (arguments ["a", "b", "a"])) := by
  obtain ⟨-, -, shown, -, same⟩ := page_says_what_is_given infrastructure (arguments ["a", "b", "a"])
  refine ⟨?_, by decide +kernel, (same _ sameValues).1⟩
  rw [shown]
  decide +kernel

end ThreeRacks

end Command

end RackInventory
