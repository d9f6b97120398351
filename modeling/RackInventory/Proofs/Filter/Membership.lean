import RackInventory.Proofs.Filter.Matching

/-!
# Criteria as memberships

Criteria are a text and, for every selection, the answer whether it is in. A change concerns some
selections and leaves the others where they are; a selection that it concerns is put in, taken out,
or inverted. So what becomes of one selection under many changes is told by those that concern it.
A change that is about one selection answers by the membership of that selection alone, and it may
come before or after a change about another one.

The changes of the text are left out here, and so is the order of two changes that both concern one
selection, where it matters.
-/

namespace RackInventory

namespace Criteria

namespace Change

/-- Whether a change concerns a selection: it is made to the selection or to a badge that stands for
it, or it clears a whole dimension with the selection in it. -/
def concerns (s : Selection) : Change → Bool
  | .add t => t = s
  | .remove t => t = s
  | .flip t => t = s
  | .seek _ => false
  | .clear dimension => s.dimension = dimension
  | .clearAll => true
  | .dismiss b => b.selection? = some s

def member (before : Bool) : Change → Bool
  | .add _ => true
  | .remove _ => false
  | .flip _ => !before
  | .seek _ => before
  | .clear _ => false
  | .clearAll => false
  | .dismiss _ => false

/-- The selection that a change is about, if it is about a single one. -/
def selection? : Change → Option Selection
  | .add s => some s
  | .remove s => some s
  | .flip s => some s
  | .seek _ => none
  | .clear _ => none
  | .clearAll => none
  | .dismiss b => b.selection?

/-- What a change about a selection can be. -/
theorem cases_of_selection? {change : Change} {s : Selection} (about : change.selection? = some s) :
    change = .add s ∨ change = .remove s ∨ change = .flip s ∨
      ∃ b, change = .dismiss b ∧ b.selection? = some s := by
  cases change with
  | add t => cases about; exact .inl rfl
  | remove t => cases about; exact .inr (.inl rfl)
  | flip t => cases about; exact .inr (.inr (.inl rfl))
  | seek query => cases about
  | clear dimension => cases about
  | clearAll => cases about
  | dismiss b => exact .inr (.inr (.inr ⟨b, rfl, about⟩))

theorem concerns_iff {change : Change} {s t : Selection} (about : change.selection? = some s) :
    change.concerns t = true ↔ t = s := by
  rcases cases_of_selection? about with rfl | rfl | rfl | ⟨b, rfl, read⟩
  · simp [concerns, eq_comm]
  · simp [concerns, eq_comm]
  · simp [concerns, eq_comm]
  · simp [concerns, read, eq_comm]

end Change

def answer? (c : Criteria) : Change → Option Bool
  | .add s => some (c.add s).1
  | .remove s => some (c.remove s).1
  | .flip s => some (c.flip s).1
  | .seek _ => none
  | .clear _ => none
  | .clearAll => none
  | .dismiss b => some (c.dismiss b).1

def ofChanges (changes : List Change) : Criteria := changes.foldl after empty

variable {c d : Criteria} {s t : Selection} {a b : Change}

theorem contains_flip :
    (c.flip s).2.contains t ↔ if t = s then ¬ c.contains t else c.contains t := by
  by_cases selected : c.contains s
  · rw [flip, if_pos selected]
    by_cases same : t = s
    · simp [contains_remove, same, selected]
    · simp [contains_remove, same]
  · rw [flip, if_neg selected]
    by_cases same : t = s
    · simp [contains_add, same, selected]
    · simp [contains_add, same]

theorem nameQuery_flip (c : Criteria) (s : Selection) : (c.flip s).2.nameQuery = c.nameQuery := by
  unfold flip
  split
  · exact c.nameQuery_remove s
  · exact c.nameQuery_add s

theorem contains_dismiss {b : Badge} :
    (c.dismiss b).2.contains s ↔ c.contains s ∧ b.selection? ≠ some s := by
  rcases c.dismiss_cases b with ⟨t, read, _, eq⟩ | ⟨name, _, eq⟩ | ⟨none, _, eq⟩
  · simp only [eq, contains_erase, read, ne_eq, Option.some.injEq, @eq_comm _ s t]
  · have unread : b.selection? = .none := by simp [Badge.selection?, name]
    have other : s.dimension ≠ .equipmentName := by cases s <;> simp [Selection.dimension]
    simp [eq, unread, contains_without, other]
  · simp only [eq]
    constructor
    · intro selected
      exact ⟨selected, fun read => none s read selected⟩
    · exact And.left

/-- A change does to a selection that it concerns what it is for, and nothing to any other. -/
theorem contains_after (c : Criteria) (change : Change) (s : Selection) :
    (c.after change).contains s =
      if change.concerns s then change.member (c.contains s) else c.contains s := by
  rw [Bool.eq_iff_iff]
  cases change with
  | add t =>
    by_cases same : t = s
    · simp [after, contains_add, Change.concerns, Change.member, same]
    · simp [after, contains_add, Change.concerns, same, Ne.symm same]
  | remove t =>
    by_cases same : t = s
    · simp [after, contains_remove, Change.concerns, Change.member, same]
    · simp [after, contains_remove, Change.concerns, same, Ne.symm same]
  | flip t =>
    by_cases same : t = s
    · simp [after, contains_flip, Change.concerns, Change.member, same]
    · simp [after, contains_flip, Change.concerns, same, Ne.symm same]
  | seek query => cases s <;> rfl
  | clear dimension =>
    by_cases here : s.dimension = dimension
    · simp [after, contains_without, Change.concerns, Change.member, here]
    · simp [after, contains_without, Change.concerns, here]
  | clearAll => simp [after, not_contains_empty, Change.concerns, Change.member]
  | dismiss b =>
    by_cases read : b.selection? = some s
    · simp [after, contains_dismiss, Change.concerns, Change.member, read]
    · simp [after, contains_dismiss, Change.concerns, read]

/-- A change about a selection leaves the text alone. -/
theorem nameQuery_after (c : Criteria) (about : a.selection? = some s) :
    (c.after a).nameQuery = c.nameQuery := by
  rcases Change.cases_of_selection? about with rfl | rfl | rfl | ⟨b, rfl, read⟩
  · exact c.nameQuery_add s
  · exact c.nameQuery_remove s
  · exact c.nameQuery_flip s
  · rw [after, dismiss_of_selection? read]
    exact c.nameQuery_remove s

theorem add_answer (c : Criteria) (s : Selection) : (c.add s).1 = !c.contains s := by
  cases selected : c.contains s <;> simp [add, selected]

theorem remove_answer (c : Criteria) (s : Selection) : (c.remove s).1 = c.contains s := by
  cases selected : c.contains s <;> simp [remove, selected]

theorem flip_answer (c : Criteria) (s : Selection) : (c.flip s).1 = !c.contains s := by
  cases selected : c.contains s <;> simp [flip, selected]

/-- What is answered to a change about a selection depends on the membership of that selection. -/
theorem answer?_congr (about : a.selection? = some s) (same : c.contains s = d.contains s) :
    c.answer? a = d.answer? a := by
  rcases Change.cases_of_selection? about with rfl | rfl | rfl | ⟨b, rfl, read⟩
  · rw [answer?, answer?, add_answer, add_answer, same]
  · rw [answer?, answer?, remove_answer, remove_answer, same]
  · rw [answer?, answer?, flip_answer, flip_answer, same]
  · rw [answer?, answer?, dismiss_of_selection? read, dismiss_of_selection? read, remove_answer,
      remove_answer, same]

/-- What becomes of a selection is told by the changes that concern it. -/
theorem contains_foldl_after (c : Criteria) (changes : List Change) (s : Selection) :
    (changes.foldl after c).contains s =
      (changes.filter (·.concerns s)).foldl (fun before change => change.member before)
        (c.contains s) := by
  induction changes generalizing c with
  | nil => rfl
  | cons change rest ih =>
    rw [List.foldl_cons, ih, contains_after]
    by_cases concerned : change.concerns s
    · simp only [concerned, if_true, List.filter_cons_of_pos, List.foldl_cons]
    · rw [if_neg concerned, List.filter_cons_of_neg concerned]

theorem contains_after_of_about (about : a.selection? = some s) (other : t ≠ s) :
    (c.after a).contains t = c.contains t := by
  rw [contains_after, if_neg fun concerned => other ((Change.concerns_iff about).mp concerned)]

theorem after_comm (first : a.selection? = some s) (second : b.selection? = some t)
    (different : s ≠ t) : (c.after a).after b = (c.after b).after a := by
  apply eq_of_contains
  · intro u
    rw [← Bool.eq_iff_iff]
    by_cases left : u = s
    · have apart : u ≠ t := left ▸ different
      rw [contains_after_of_about second apart, contains_after, contains_after _ a,
        contains_after_of_about second apart]
    · rw [contains_after_of_about first left, contains_after, contains_after _ b,
        contains_after_of_about first left]
  · simp only [nameQuery_after _ first, nameQuery_after _ second]

theorem remove_add_iff : ((c.add s).2.remove s).2 = c ↔ ¬ c.contains s := by
  constructor
  · intro same selected
    rw [← same, contains_remove] at selected
    exact selected.2 rfl
  · intro absent
    apply eq_of_contains
    · intro t
      rw [contains_remove, contains_add]
      constructor
      · rintro ⟨rfl | here, different⟩
        · exact absurd rfl different
        · exact here
      · intro here
        exact ⟨.inr here, fun same => absent (same ▸ here)⟩
    · rw [nameQuery_remove, nameQuery_add]

theorem add_remove_iff : ((c.remove s).2.add s).2 = c ↔ c.contains s := by
  constructor
  · intro same
    rw [← same, contains_add]
    exact .inl rfl
  · intro present
    apply eq_of_contains
    · intro t
      rw [contains_add, contains_remove]
      constructor
      · rintro (rfl | ⟨here, _⟩)
        · exact present
        · exact here
      · intro here
        by_cases same : t = s
        · exact .inl same
        · exact .inr ⟨here, same⟩
    · rw [nameQuery_add, nameQuery_remove]

theorem flip_flip (c : Criteria) (s : Selection) : ((c.flip s).2.flip s).2 = c := by
  apply eq_of_contains
  · intro t
    by_cases same : t = s
    · simp [contains_flip, same]
    · simp [contains_flip, same]
  · rw [nameQuery_flip, nameQuery_flip]

/-- What is selected after any changes is told, selection by selection, by the changes that concern
it. Changes answer by these memberships and commute when they are about different selections, the
memberships and the text tell the criteria, and a change that had something to do can be taken
back. -/
theorem told_by_memberships :
    (∀ changes s, (ofChanges changes).contains s =
      (changes.filter (·.concerns s)).foldl (fun before change => change.member before) false) ∧
    (∀ (c : Criteria) s, ((c.add s).1 = true ↔ (c.add s).2.contains s ≠ c.contains s) ∧
      ((c.remove s).1 = true ↔ (c.remove s).2.contains s ≠ c.contains s) ∧
      (c.flip s).1 = (c.flip s).2.contains s) ∧
    (∀ (c : Criteria) a b s t, a.selection? = some s → b.selection? = some t → s ≠ t →
      (c.after a).after b = (c.after b).after a ∧ (c.after a).answer? b = c.answer? b) ∧
    (∀ first second,
      (∀ s, (ofChanges first).contains s = (ofChanges second).contains s) →
      (ofChanges first).nameQuery = (ofChanges second).nameQuery →
      ofChanges first = ofChanges second ∧
        (ofChanges first).badges = (ofChanges second).badges) ∧
    (∀ (c : Criteria) s, (((c.add s).2.remove s).2 = c ↔ ¬ c.contains s) ∧
      (((c.remove s).2.add s).2 = c ↔ c.contains s) ∧
      ((c.flip s).2.flip s).2 = c) := by
  refine ⟨?_, ?_, ?_, ?_, ?_⟩
  · intro changes s
    have start : empty.contains s = false := Bool.eq_false_iff.mpr (not_contains_empty s)
    rw [ofChanges, contains_foldl_after, start]
  · intro c s
    have added : (c.add s).2.contains s = true := contains_add.mpr (.inl rfl)
    have removed : (c.remove s).2.contains s = false :=
      Bool.eq_false_iff.mpr fun here => (contains_remove.mp here).2 rfl
    have flipped : (c.flip s).2.contains s = !c.contains s := by
      rw [Bool.eq_iff_iff, contains_flip]
      simp
    refine ⟨?_, ?_, ?_⟩
    · rw [add_answer, added]
      cases c.contains s <;> simp
    · rw [remove_answer, removed]
      cases c.contains s <;> simp
    · rw [flip_answer, flipped]
  · intro c a b s t first second different
    exact ⟨after_comm first second different,
      answer?_congr second (contains_after_of_about first different.symm)⟩
  · intro first second memberships query
    have same : ofChanges first = ofChanges second :=
      eq_of_contains (fun s => by rw [memberships]) query
    exact ⟨same, congrArg badges same⟩
  · intro c s
    exact ⟨remove_add_iff, add_remove_iff, c.flip_flip s⟩

/-- A badge can show its category in another way, and another category be flipped beside it. -/
theorem dismissed_beside_flip :
    (ofChanges [.add (.category .node), .dismiss ⟨.categories, " Node"⟩,
        .flip (.category .misc)]).badges = [⟨.categories, "misc"⟩] ∧
      ofChanges [.add (.category .node), .dismiss ⟨.categories, " Node"⟩,
          .flip (.category .misc)] =
        ofChanges [.add (.category .node), .flip (.category .misc),
          .dismiss ⟨.categories, " Node"⟩] := by
  have read : (Change.dismiss ⟨.categories, " Node"⟩).selection? = some (.category .node) := by
    decide
  have commute := told_by_memberships.2.2.1 (ofChanges [.add (.category .node)])
    (.dismiss ⟨.categories, " Node"⟩) (.flip (.category .misc)) _ _ read rfl (by decide)
  exact ⟨by decide, commute.1⟩

end Criteria

end RackInventory
