import RackInventory.Proofs.Filter.Badges
import RackInventory.Proofs.Filter.Facets
import RackInventory.Proofs.View.Independence

/-!
# Filtering a view by its facets and badges

What a view shows after changes of the criteria depends on the criteria that they lead to and on
nothing else. So what is known of facets and badges on their own holds of the view: a facet that
is offered shows something when it alone is selected, and when all badges are dismissed in any
order the view shows what it shows after everything was cleared at once.

The states of the racks are left out, as they depend on what was hidden in between.
-/

namespace RackInventory

namespace ViewState

theorem criteria_refine (v : ViewState) (changes : List Criteria.Change) :
    (v.run (changes.map .refine)).criteria = changes.foldl Criteria.after v.criteria := by
  rw [criteria_run, List.filterMap_map]
  exact congrArg (List.foldl Criteria.after v.criteria) List.filterMap_some

theorem catalog_refine (v : ViewState) (changes : List Criteria.Change) :
    (v.run (changes.map .refine)).catalog = v.catalog := by
  induction changes generalizing v with
  | nil => rfl
  | cons change rest ih => exact ih (v.step (.refine change))

/-- What is shown after changes of the criteria depends on the criteria that they lead to. -/
theorem shown_refine {v : ViewState} (h : v.Settled) (changes : List Criteria.Change) :
    (v.run (changes.map .refine)).shown =
      (changes.foldl Criteria.after v.criteria).select v.catalog.items := by
  rw [shown_eq (run_settled h _), criteria_refine, catalog_refine]

end ViewState

/-- The badges are an image of the criteria: they tell the criteria, each can be dismissed alone,
and dismissing all of them in any order clears the criteria. -/
theorem badges_image (c : Criteria) (h : History) :
    c.badges.Nodup ∧ (c.badges = [] ↔ c.isEmpty = true) ∧
    (∀ d : Criteria, d.badges = c.badges → d = c) ∧
    (∀ b ∈ c.badges, (c.dismiss b).1 = true ∧ (c.dismiss b).2.badges = c.badges.erase b) ∧
    (∀ b, ((c.dismiss b).1 = false ↔ (c.dismiss b).2 = c) ∧
      ((c.dismiss b).1 = true → ∃ gone ∈ c.badges, gone.dimension = b.dimension ∧
        (c.dismiss b).2.badges = c.badges.erase gone)) ∧
    (∀ order : List Badge, order.Perm c.badges →
      order.foldl (fun d b => (d.dismiss b).2) c = .empty) ∧
    (∀ order : List Badge, order.Perm h.view.criteria.badges →
      (h.view.run (order.map fun b => .refine (.dismiss b))).criteria = .empty ∧
      (h.view.run (order.map fun b => .refine (.dismiss b))).criteria =
        (h.view.step (.refine .clearAll)).criteria ∧
      (h.view.run (order.map fun b => .refine (.dismiss b))).shown =
        (h.view.step (.refine .clearAll)).shown) := by
  refine ⟨c.nodup_badges, Criteria.badges_eq_nil_iff, fun d => @Criteria.badges_injective d c,
    ?_, ?_, ?_, ?_⟩
  · intro b listed
    rcases c.badges_dismiss b with ⟨gone, _, _, same, answer, left⟩ | ⟨unlisted, _⟩
    · exact ⟨answer, same listed ▸ left⟩
    · exact absurd listed unlisted
  · intro b
    refine ⟨Criteria.dismiss_eq_self_iff.symm, ?_⟩
    intro answer
    rcases c.badges_dismiss b with ⟨gone, mem, dimension, _, _, left⟩ | ⟨_, eq⟩
    · exact ⟨gone, mem, dimension, left⟩
    · rw [eq] at answer
      cases answer
  · intro order all
    rw [← Criteria.dismiss_all all, List.foldl_map]
    rfl
  · intro order all
    have dismissals : (order.map fun b => Gesture.refine (.dismiss b)) =
        (order.map Criteria.Change.dismiss).map .refine := List.map_map.symm
    have cleared := Criteria.dismiss_all all
    have shown := ViewState.shown_refine h.view_settled (order.map Criteria.Change.dismiss)
    have none := ViewState.shown_refine h.view_settled [.clearAll]
    rw [dismissals, ViewState.criteria_refine, shown, cleared]
    exact ⟨rfl, rfl, none.symm⟩

/-- The facets offer exactly the values that leave something to show. Selecting all that is
offered in one dimension hides nothing, and the offered racks divide the items among them. -/
theorem facets_agree (items : List PlacedItem) (h : History) :
    (∀ s, (Facets.ofItems items).Offers s ↔ (Criteria.selecting [s]).select items ≠ []) ∧
    (∀ s, (Facets.ofItems h.view.catalog.items).Offers s ↔
      (h.view.run [.refine .clearAll, .refine (.add s)]).shown ≠ []) ∧
    (Criteria.selecting ((Facets.ofItems items).racks.map .rack)).select items = items ∧
    (Criteria.selecting ((Facets.ofItems items).equipmentTypes.map .equipmentType)).select items =
      items ∧
    (Criteria.selecting ((Facets.ofItems items).categories.map .category)).select items = items ∧
    (∀ r ∈ (Facets.ofItems items).racks, (Criteria.selecting [.rack r]).select items ≠ []) ∧
    ((Facets.ofItems items).racks.Pairwise fun r q =>
      ((Criteria.selecting [.rack r]).select items).Disjoint
        ((Criteria.selecting [.rack q]).select items)) ∧
    ((Facets.ofItems items).racks.flatMap fun r =>
      (Criteria.selecting [.rack r]).select items).Perm items := by
  refine ⟨fun s => Criteria.select_ne_nil_iff.symm, ?_, Criteria.select_racks items,
    Criteria.select_equipmentTypes items, Criteria.select_categories items, ?_, ?_,
    Criteria.flatMap_select_rack_perm items⟩
  · intro s
    have only : (h.view.run [.refine .clearAll, .refine (.add s)]).shown =
        (Criteria.selecting [s]).select h.view.catalog.items :=
      ViewState.shown_refine h.view_settled [.clearAll, .add s]
    rw [only]
    exact Criteria.select_ne_nil_iff.symm
  · intro r offered
    exact Criteria.select_ne_nil_iff.mpr offered
  · exact (nodup_distinct _).imp Criteria.disjoint_select_rack

end RackInventory
