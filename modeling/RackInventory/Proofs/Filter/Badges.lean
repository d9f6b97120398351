import Mathlib.Data.List.Nodup
import RackInventory.Proofs.Filter.Changes

/-!
# Badges show the criteria and take them apart

Each selection has a badge of its own, and so has the text that is looked for. The badges of some
criteria therefore tell which criteria they are. Dismissing a badge takes one badge away and
leaves the others in their places, or does nothing at all; a text on a badge need not be the one
shown, as a category can be written in several ways and the name has one badge only. So the badges
can be dismissed one after the other in any order until nothing is selected.
-/

namespace RackInventory

def Selection.badge : Selection → Badge
  | .rack r => ⟨.racks, r⟩
  | .equipmentType t => ⟨.equipmentTypes, t⟩
  | .category k => ⟨.categories, k.key⟩
  | .tag t => ⟨.tags, t⟩

theorem EquipmentCategory.ofText_key (k : EquipmentCategory) : ofText k.key = .ok k := by
  cases k <;> decide

theorem Selection.selection?_badge (s : Selection) : s.badge.selection? = some s := by
  cases s with
  | category k => simp only [badge, Badge.selection?, EquipmentCategory.ofText_key]; rfl
  | _ => rfl

theorem Selection.badge_injective : Function.Injective Selection.badge := by
  intro s t same
  have read := congrArg Badge.selection? same
  rwa [selection?_badge, selection?_badge, Option.some.injEq] at read

theorem Selection.dimension_badge_ne_name (s : Selection) : s.badge.dimension ≠ .equipmentName := by
  cases s <;> nofun

theorem Badge.dimension_of_selection? {b : Badge} {s : Selection} (h : b.selection? = some s) :
    s.badge.dimension = b.dimension := by
  obtain ⟨dimension, value⟩ := b
  cases dimension with
  | racks => cases h; rfl
  | equipmentTypes => cases h; rfl
  | categories =>
    obtain ⟨k, _, rfl⟩ := Option.map_eq_some_iff.mp h
    rfl
  | tags => cases h; rfl
  | equipmentName => cases h

namespace Criteria

def selections (c : Criteria) : List Selection :=
  c.racks.toList.map .rack ++ c.equipmentTypes.toList.map .equipmentType ++
    c.categories.toList.map .category ++ c.tags.toList.map .tag

def nameBadges (c : Criteria) : List Badge :=
  if c.nameQuery.isEmpty then [] else [⟨.equipmentName, c.nameQuery⟩]

theorem badges_eq (c : Criteria) : c.badges = c.selections.map Selection.badge ++ c.nameBadges := by
  simp only [badges, selections, nameBadges, List.map_append, List.map_map]
  rfl

theorem mem_selections {c : Criteria} {s : Selection} : s ∈ c.selections ↔ c.contains s := by
  cases s <;> simp [selections, OrderedSet.mem_iff]

theorem nodup_selections (c : Criteria) : c.selections.Nodup := by
  have racks : (c.racks.toList.map Selection.rack).Nodup :=
    c.racks.nodup_toList.map fun _ _ => Selection.rack.inj
  have types : (c.equipmentTypes.toList.map Selection.equipmentType).Nodup :=
    c.equipmentTypes.nodup_toList.map fun _ _ => Selection.equipmentType.inj
  have categories : (c.categories.toList.map Selection.category).Nodup :=
    c.categories.nodup_toList.map fun _ _ => Selection.category.inj
  have tags : (c.tags.toList.map Selection.tag).Nodup :=
    c.tags.nodup_toList.map fun _ _ => Selection.tag.inj
  refine ((racks.append types ?_).append categories ?_).append tags ?_
  · grind [List.Disjoint]
  · grind [List.Disjoint]
  · grind [List.Disjoint]

theorem selections_erase (c : Criteria) (s : Selection) :
    (c.erase s).selections = c.selections.filter (· ≠ s) := by
  cases s with
  | rack r => simp [selections, erase, OrderedSet.toList_erase, List.filter_map, Function.comp_def]
  | equipmentType t =>
    simp [selections, erase, OrderedSet.toList_erase, List.filter_map, Function.comp_def]
  | category k =>
    simp [selections, erase, OrderedSet.toList_erase, List.filter_map, Function.comp_def]
  | tag t => simp [selections, erase, OrderedSet.toList_erase, List.filter_map, Function.comp_def]

theorem mem_nameBadges {c : Criteria} {b : Badge} :
    b ∈ c.nameBadges ↔ c.nameQuery ≠ "" ∧ b = ⟨.equipmentName, c.nameQuery⟩ := by
  by_cases query : c.nameQuery = "" <;> simp [nameBadges, query]

theorem mem_badges {c : Criteria} {b : Badge} :
    b ∈ c.badges ↔ (∃ s, c.contains s ∧ s.badge = b) ∨
      c.nameQuery ≠ "" ∧ b = ⟨.equipmentName, c.nameQuery⟩ := by
  rw [badges_eq, List.mem_append, List.mem_map, mem_nameBadges]
  simp only [mem_selections]

theorem nodup_badges (c : Criteria) : c.badges.Nodup := by
  rw [badges_eq]
  refine (c.nodup_selections.map Selection.badge_injective).append ?_ ?_
  · unfold nameBadges
    split <;> simp
  · intro b selected named
    obtain ⟨s, _, rfl⟩ := List.mem_map.mp selected
    have name := congrArg Badge.dimension (mem_nameBadges.mp named).2
    exact s.dimension_badge_ne_name name

theorem badge_mem_badges {c : Criteria} {s : Selection} : s.badge ∈ c.badges ↔ c.contains s := by
  rw [mem_badges]
  constructor
  · rintro (⟨t, selected, same⟩ | ⟨_, same⟩)
    · exact Selection.badge_injective same ▸ selected
    · exact absurd (congrArg Badge.dimension same) s.dimension_badge_ne_name
  · intro selected
    exact .inl ⟨s, selected, rfl⟩

theorem name_mem_badges {c : Criteria} {query : String} :
    ⟨.equipmentName, query⟩ ∈ c.badges ↔ query ≠ "" ∧ query = c.nameQuery := by
  rw [mem_badges]
  constructor
  · rintro (⟨t, _, same⟩ | ⟨asked, same⟩)
    · exact absurd (congrArg Badge.dimension same) t.dimension_badge_ne_name
    · cases same
      exact ⟨asked, rfl⟩
  · rintro ⟨asked, rfl⟩
    exact .inr ⟨asked, rfl⟩

theorem badges_injective : Function.Injective Criteria.badges := by
  intro c d same
  have named : ∀ query, query ≠ "" → (query = c.nameQuery ↔ query = d.nameQuery) := by
    intro query asked
    have shown : ⟨.equipmentName, query⟩ ∈ c.badges ↔ ⟨.equipmentName, query⟩ ∈ d.badges := by
      rw [same]
    simpa [name_mem_badges, asked] using shown
  apply eq_of_contains
  · intro s
    rw [← badge_mem_badges, same, badge_mem_badges]
  · by_cases left : c.nameQuery = ""
    · by_cases right : d.nameQuery = ""
      · rw [left, right]
      · exact ((named d.nameQuery right).mpr rfl).symm
    · exact (named c.nameQuery left).mp rfl

theorem badges_eq_nil_iff {c : Criteria} : c.badges = [] ↔ c.isEmpty := by
  rw [isEmpty_iff]
  exact badges_injective.eq_iff' rfl

theorem badges_erase (c : Criteria) (s : Selection) :
    (c.erase s).badges = c.badges.erase s.badge := by
  have selected : (c.erase s).selections.map Selection.badge =
      (c.selections.map Selection.badge).filter (· != s.badge) := by
    rw [selections_erase, List.filter_map]
    congr 1
    apply List.filter_congr
    intro t _
    rw [Bool.eq_iff_iff, decide_eq_true_eq]
    exact Selection.badge_injective.ne_iff.symm.trans bne_iff_ne.symm
  have named : (c.erase s).nameBadges = c.nameBadges.filter (· != s.badge) := by
    have kept : c.nameBadges.filter (· != s.badge) = c.nameBadges := by
      rw [List.filter_eq_self]
      intro b mem
      have name := congrArg Badge.dimension (mem_nameBadges.mp mem).2
      rw [bne_iff_ne]
      rintro rfl
      exact s.dimension_badge_ne_name name
    rw [kept, nameBadges, nameBadges, nameQuery_erase]
  rw [c.nodup_badges.erase_eq_filter, badges_eq, badges_eq c, selected, named, List.filter_append]

theorem badges_without_name {c : Criteria} (query : c.nameQuery ≠ "") :
    (c.without .equipmentName).badges = c.badges.erase ⟨.equipmentName, c.nameQuery⟩ := by
  have name : c.nameBadges = [⟨.equipmentName, c.nameQuery⟩] := by
    simp [nameBadges, query]
  have apart : ⟨.equipmentName, c.nameQuery⟩ ∉ c.selections.map Selection.badge := by
    intro mem
    obtain ⟨s, _, same⟩ := List.mem_map.mp mem
    exact s.dimension_badge_ne_name (congrArg Badge.dimension same)
  rw [c.badges_eq, List.erase_append_right _ apart, name, List.erase_cons_head, badges_eq]
  rfl

/-- Dismissing a badge removes one badge, of the same dimension, or there was none to remove. -/
theorem badges_dismiss (c : Criteria) (b : Badge) :
    (∃ gone ∈ c.badges, gone.dimension = b.dimension ∧ (b ∈ c.badges → gone = b) ∧
      (c.dismiss b).1 = true ∧ (c.dismiss b).2.badges = c.badges.erase gone) ∨
    (b ∉ c.badges ∧ c.dismiss b = (false, c)) := by
  rcases c.dismiss_cases b with ⟨s, read, selected, eq⟩ | ⟨name, query, eq⟩ | ⟨none, unnamed, eq⟩
  · refine .inl ⟨s.badge, badge_mem_badges.mpr selected, Badge.dimension_of_selection? read, ?_,
      by rw [eq], by rw [eq, badges_erase]⟩
    intro listed
    rcases mem_badges.mp listed with ⟨t, _, rfl⟩ | ⟨_, rfl⟩
    · rw [Selection.selection?_badge, Option.some.injEq] at read
      rw [read]
    · cases read
  · refine .inl ⟨⟨.equipmentName, c.nameQuery⟩, name_mem_badges.mpr ⟨query, rfl⟩, name.symm, ?_,
      by rw [eq], by rw [eq, badges_without_name query]⟩
    intro listed
    rcases mem_badges.mp listed with ⟨t, _, rfl⟩ | ⟨_, rfl⟩
    · exact absurd name t.dimension_badge_ne_name
    · rfl
  · refine .inr ⟨?_, eq⟩
    intro listed
    rcases mem_badges.mp listed with ⟨t, selected, rfl⟩ | ⟨query, rfl⟩
    · exact none t t.selection?_badge selected
    · exact query (unnamed rfl)

/-- Dismissing all badges leaves nothing selected, whatever the order. -/
theorem dismiss_all {c : Criteria} {order : List Badge} (all : order.Perm c.badges) :
    (order.map Change.dismiss).foldl after c = empty := by
  induction order generalizing c with
  | nil => exact isEmpty_iff.mp (badges_eq_nil_iff.mp all.nil_eq.symm)
  | cons b rest ih =>
    obtain ⟨listed, others⟩ := List.cons_perm_iff_perm_erase.mp all
    rcases c.badges_dismiss b with ⟨gone, _, _, same, _, left⟩ | ⟨unlisted, _⟩
    · rw [same listed] at left
      exact ih (left ▸ others)
    · exact absurd listed unlisted

end Criteria

end RackInventory
