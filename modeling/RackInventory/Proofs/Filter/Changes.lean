import Mathlib.Logic.Basic
import RackInventory.Filter.Criteria

/-!
# What a change does to the criteria

Criteria are told by the selections that they contain and by the text that they look for. Each
operation is described by these two, and a change that leaves the criteria as they are is one that
had nothing to do: it selects what is selected, takes out what is not there, or clears what is
empty.
-/

namespace RackInventory

namespace Criteria

variable {c d : Criteria} {s t : Selection}

@[simp]
theorem contains_rack {r : String} : c.contains (.rack r) ↔ r ∈ c.racks :=
  decide_eq_true_iff

@[simp]
theorem contains_equipmentType {t : String} :
    c.contains (.equipmentType t) ↔ t ∈ c.equipmentTypes :=
  decide_eq_true_iff

@[simp]
theorem contains_category {k : EquipmentCategory} : c.contains (.category k) ↔ k ∈ c.categories :=
  decide_eq_true_iff

@[simp]
theorem contains_tag {t : String} : c.contains (.tag t) ↔ t ∈ c.tags :=
  decide_eq_true_iff

/-- The selections and the text are all there is to criteria. -/
theorem eq_of_contains (contains : ∀ s, c.contains s ↔ d.contains s)
    (nameQuery : c.nameQuery = d.nameQuery) : c = d := by
  have racks : c.racks = d.racks := OrderedSet.ext_mem fun r => by simpa using contains (.rack r)
  have types : c.equipmentTypes = d.equipmentTypes :=
    OrderedSet.ext_mem fun t => by simpa using contains (.equipmentType t)
  have categories : c.categories = d.categories :=
    OrderedSet.ext_mem fun k => by simpa using contains (.category k)
  have tags : c.tags = d.tags := OrderedSet.ext_mem fun t => by simpa using contains (.tag t)
  cases c
  cases d
  cases racks
  cases types
  cases categories
  cases tags
  cases nameQuery
  rfl

theorem contains_insert : (c.insert s).contains t ↔ t = s ∨ c.contains t := by
  cases s <;> cases t <;> simp [insert, OrderedSet.mem_insert]

theorem contains_erase : (c.erase s).contains t ↔ c.contains t ∧ t ≠ s := by
  cases s <;> cases t <;> simp [erase, OrderedSet.mem_erase]

theorem not_contains_empty (s : Selection) : ¬ empty.contains s := by
  cases s <;> simp [empty, OrderedSet.mem_iff, OrderedSet.empty]

theorem nameQuery_insert (c : Criteria) (s : Selection) : (c.insert s).nameQuery = c.nameQuery := by
  cases s <;> rfl

theorem nameQuery_erase (c : Criteria) (s : Selection) : (c.erase s).nameQuery = c.nameQuery := by
  cases s <;> rfl

theorem contains_remove : (c.remove s).2.contains t ↔ c.contains t ∧ t ≠ s := by
  by_cases selected : c.contains s
  · rw [remove, if_pos selected]
    exact contains_erase
  · rw [remove, if_neg selected]
    refine (and_iff_left_of_imp ?_).symm
    rintro here rfl
    exact selected here

theorem nameQuery_remove (c : Criteria) (s : Selection) :
    (c.remove s).2.nameQuery = c.nameQuery := by
  unfold remove
  split
  · exact c.nameQuery_erase s
  · rfl

theorem contains_without {dimension : Dimension} :
    (c.without dimension).contains s ↔ c.contains s ∧ s.dimension ≠ dimension := by
  have none := not_contains_empty s
  cases s <;> cases dimension <;> simp_all [without, empty, Selection.dimension]

theorem nameQuery_without {dimension : Dimension} (asked : (c.without dimension).nameQuery ≠ "") :
    (c.without dimension).nameQuery = c.nameQuery := by
  cases dimension with
  | equipmentName => exact absurd rfl asked
  | _ => rfl

theorem add_eq_self_iff : (c.add s).2 = c ↔ c.contains s := by
  by_cases selected : c.contains s
  · simp [add, selected]
  · rw [add, if_neg selected]
    exact iff_of_false (fun same => selected (same ▸ contains_insert.mpr (.inl rfl))) selected

theorem remove_eq_self_iff : (c.remove s).2 = c ↔ ¬ c.contains s := by
  by_cases selected : c.contains s
  · rw [remove, if_pos selected]
    have gone : ¬ (c.erase s).contains s := fun h => (contains_erase.mp h).2 rfl
    have changed : c.erase s ≠ c := fun same => gone (same.symm ▸ selected)
    exact iff_of_false changed (not_not.mpr selected)
  · simp [remove, selected]

theorem flip_ne_self : (c.flip s).2 ≠ c := by
  by_cases selected : c.contains s
  · rw [flip, if_pos selected]
    exact fun same => remove_eq_self_iff.mp same selected
  · rw [flip, if_neg selected]
    exact fun same => selected (add_eq_self_iff.mp same)

/-- Whether nothing is asked for in a dimension. -/
def Unrestricted (c : Criteria) : Dimension → Prop
  | .racks => c.racks = .empty
  | .equipmentTypes => c.equipmentTypes = .empty
  | .categories => c.categories = .empty
  | .tags => c.tags = .empty
  | .equipmentName => c.nameQuery = ""

theorem without_eq_self_iff {dimension : Dimension} :
    c.without dimension = c ↔ c.Unrestricted dimension := by
  cases c
  cases dimension <;> simp [without, Unrestricted, eq_comm]

theorem isEmpty_iff : c.isEmpty ↔ c = empty := by
  simp only [isEmpty, Bool.and_eq_true, OrderedSet.isEmpty_iff, String.isEmpty_iff]
  constructor
  · rintro ⟨⟨⟨⟨racks, types⟩, categories⟩, tags⟩, name⟩
    calc c = ⟨c.racks, c.equipmentTypes, c.categories, c.tags, c.nameQuery⟩ := rfl
      _ = empty := by rw [racks, types, categories, tags, name, empty]
  · rintro rfl
    exact ⟨⟨⟨⟨rfl, rfl⟩, rfl⟩, rfl⟩, rfl⟩

end Criteria

def Badge.selection? (b : Badge) : Option Selection :=
  match b.dimension with
  | .racks => some (.rack b.value)
  | .equipmentTypes => some (.equipmentType b.value)
  | .categories => (EquipmentCategory.ofText b.value).toOption.map .category
  | .tags => some (.tag b.value)
  | .equipmentName => none

namespace Criteria

variable {c : Criteria} {b : Badge} {s : Selection}

theorem dismiss_of_selection? (h : b.selection? = some s) : c.dismiss b = c.remove s := by
  obtain ⟨dimension, value⟩ := b
  cases dimension with
  | racks => cases h; rfl
  | equipmentTypes => cases h; rfl
  | categories =>
    cases read : EquipmentCategory.ofText value with
    | ok k =>
      have same : s = .category k := by
        simpa [Badge.selection?, read, Except.toOption] using h.symm
      simp only [dismiss, read, same]
    | error e => simp [Badge.selection?, read, Except.toOption] at h
  | tags => cases h; rfl
  | equipmentName => cases h

theorem dismiss_of_no_selection? (h : b.selection? = none) (k : b.dimension ≠ .equipmentName) :
    c.dismiss b = (false, c) := by
  obtain ⟨dimension, value⟩ := b
  cases dimension with
  | racks => cases h
  | equipmentTypes => cases h
  | categories =>
    cases read : EquipmentCategory.ofText value with
    | ok k => simp [Badge.selection?, read, Except.toOption] at h
    | error e => simp only [dismiss, read]
  | tags => cases h
  | equipmentName => exact absurd rfl k

theorem dismiss_of_name (h : b.dimension = .equipmentName) :
    c.dismiss b = if c.nameQuery.isEmpty then (false, c) else (true, c.without .equipmentName) := by
  rw [dismiss, h]

/-- Dismissing a badge takes out the selection that it stands for, or clears the text that is looked
for, whatever text the badge shows. Else it does nothing, as nothing is there to be removed. -/
theorem dismiss_cases (c : Criteria) (b : Badge) :
    (∃ s, b.selection? = some s ∧ c.contains s ∧ c.dismiss b = (true, c.erase s)) ∨
    (b.dimension = .equipmentName ∧ c.nameQuery ≠ "" ∧
      c.dismiss b = (true, c.without .equipmentName)) ∨
    ((∀ s, b.selection? = some s → ¬ c.contains s) ∧
      (b.dimension = .equipmentName → c.nameQuery = "") ∧ c.dismiss b = (false, c)) := by
  cases selection : b.selection? with
  | some s =>
    have unnamed : b.dimension ≠ .equipmentName := by
      intro name
      simp [Badge.selection?, name] at selection
    rw [dismiss_of_selection? selection, remove]
    by_cases selected : c.contains s
    · exact .inl ⟨s, rfl, selected, if_pos selected⟩
    · refine .inr (.inr ⟨?_, fun name => absurd name unnamed, if_neg selected⟩)
      rintro t ⟨⟩
      exact selected
  | none =>
    right
    by_cases name : b.dimension = .equipmentName
    · rw [dismiss_of_name name]
      by_cases query : c.nameQuery.isEmpty
      · exact .inr ⟨nofun, fun _ => String.isEmpty_iff.mp query, if_pos query⟩
      · exact .inl ⟨name, mt String.isEmpty_iff.mpr query, if_neg query⟩
    · exact .inr ⟨nofun, fun h => absurd h name, dismiss_of_no_selection? selection name⟩

/-- The answer of a dismissal says whether it changed anything. -/
theorem dismiss_eq_self_iff : (c.dismiss b).2 = c ↔ (c.dismiss b).1 = false := by
  rcases c.dismiss_cases b with ⟨s, _, selected, eq⟩ | ⟨_, query, eq⟩ | ⟨_, _, eq⟩
  · have changed := remove_eq_self_iff.not.mpr (not_not.mpr selected)
    rw [remove, if_pos selected] at changed
    simpa [eq] using changed
  · have changed : c.without .equipmentName ≠ c := without_eq_self_iff.not.mpr query
    simpa [eq] using changed
  · simp [eq]

def Idle (c : Criteria) : Change → Prop
  | .add s => c.contains s
  | .remove s => ¬ c.contains s
  | .flip _ => False
  | .seek query => query = c.nameQuery
  | .clear dimension => c.Unrestricted dimension
  | .clearAll => c.isEmpty
  | .dismiss b => (c.dismiss b).1 = false

theorem after_eq_self_iff {change : Change} : c.after change = c ↔ c.Idle change := by
  cases change with
  | add s => exact add_eq_self_iff
  | remove s => exact remove_eq_self_iff
  | flip s => exact iff_of_false flip_ne_self not_false
  | seek query =>
    cases c
    simp [after, seeking, Idle]
  | clear dimension => exact without_eq_self_iff
  | clearAll => exact eq_comm.trans isEmpty_iff.symm
  | dismiss b => exact dismiss_eq_self_iff

end Criteria

end RackInventory
