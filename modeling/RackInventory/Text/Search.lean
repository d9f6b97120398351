import RackInventory.Text.Lowercase

/-!
# Searching a text without regard to case

A query is found in a text when its lower-case form occurs inside the lower-case form of the text,
as consecutive characters. The empty query is found everywhere.
-/

namespace RackInventory

/-- Whether `part` occurs in a list as consecutive elements. -/
def occursIn {α : Type} [BEq α] (part : List α) : List α → Bool
  | [] => part.isEmpty
  | a :: rest => part.isPrefixOf (a :: rest) || occursIn part rest

def containsIgnoringCase (text query : String) : Bool :=
  occursIn (Lowercase.lower query.toList) (Lowercase.lower text.toList)

theorem occursIn_iff {α : Type} [BEq α] [LawfulBEq α] {part whole : List α} :
    occursIn part whole = true ↔ ∃ before after, whole = before ++ part ++ after := by
  induction whole with
  | nil =>
    simp only [occursIn, List.isEmpty_iff]
    constructor
    · rintro rfl
      exact ⟨[], [], rfl⟩
    · rintro ⟨before, after, h⟩
      simp_all
  | cons a rest ih =>
    simp only [occursIn, Bool.or_eq_true, List.isPrefixOf_iff_prefix, ih]
    constructor
    · rintro (⟨after, h⟩ | ⟨before, after, h⟩)
      · exact ⟨[], after, by simp [h]⟩
      · exact ⟨a :: before, after, by simp [h]⟩
    · rintro ⟨before, after, h⟩
      cases before with
      | nil => exact Or.inl ⟨after, by simpa using h.symm⟩
      | cons b before =>
        simp only [List.cons_append, List.cons.injEq] at h
        exact Or.inr ⟨before, after, h.2⟩

theorem occursIn_nil {α : Type} [BEq α] (whole : List α) : occursIn [] whole = true := by
  cases whole <;> simp [occursIn]

theorem containsIgnoringCase_empty (text : String) : containsIgnoringCase text "" = true :=
  occursIn_nil _

end RackInventory
