import RackInventory.Text.Lowercase

/-!
# Lowering a part of a text

What a character is lowered to does not depend on its neighbours, unless it is a capital sigma. A
sigma is decided by the first character before it and the first one after it that are not skipped.
Lowered as a part of a longer text, a text therefore has the form that it has alone, except for a
sigma of which one of these two characters is missing in the text itself: the one that comes first
in its text, characters that are skipped aside, and the one that comes last.

A text is called decided when no sigma of it can be changed from outside. Texts without capital
sigmas are.
-/

namespace RackInventory.Lowercase

/-- Lowers a text that stands between the reversed text `before` and the text `after`. -/
def lowerBetween (before : List Char) : List Char → List Char → List Char
  | [], _ => []
  | c :: rest, after => lowerAt before c (rest ++ after) ++ lowerBetween (c :: before) rest after

/-- Whether nothing in a text stops the search for a cased letter. -/
def Skipped (s : List Char) : Prop := ∀ c ∈ s, isCaseIgnorable c = true

instance (s : List Char) : Decidable (Skipped s) :=
  inferInstanceAs (Decidable (∀ c ∈ s, isCaseIgnorable c = true))

/-- Whether text around `before`, a capital sigma and `after` can change the form of the sigma: it
is not final yet and nothing stands in front of it, or it is final and nothing stands behind. -/
def Open (before after : List Char) : Prop :=
  (Skipped before ∧ meetsCased after = false) ∨ (meetsCased before.reverse = true ∧ Skipped after)

instance (before after : List Char) : Decidable (Open before after) :=
  inferInstanceAs (Decidable (_ ∨ _))

/-- Whether no sigma of a text can be changed from outside. -/
def Decided (s : List Char) : Prop :=
  ∀ i < s.length, s[i]? = some 'Σ' → ¬ Open (s.take i) (s.drop (i + 1))

instance (s : List Char) : Decidable (Decided s) :=
  inferInstanceAs (Decidable (∀ i < s.length, s[i]? = some 'Σ' → ¬ Open (s.take i) (s.drop (i + 1))))

theorem decided_iff {s : List Char} :
    Decided s ↔ ∀ before after, s = before ++ 'Σ' :: after → ¬ Open before after := by
  constructor
  · intro decided before after eq
    have here := decided before.length (by simp [eq]) (by simp [eq])
    rwa [eq, List.take_left, List.drop_append, Nat.add_sub_cancel_left,
      List.drop_eq_nil_of_le (Nat.le_succ _)] at here
  · intro decided i bound sigma
    apply decided
    rw [List.getElem?_eq_getElem bound, Option.some.injEq] at sigma
    rw [← sigma, List.getElem_cons_drop, List.take_append_drop]

theorem decided_of_not_mem {s : List Char} (none : 'Σ' ∉ s) : Decided s := by
  rw [decided_iff]
  rintro before after rfl
  exact absurd (by simp) none

theorem meetsCased_cons (c : Char) (s : List Char) :
    meetsCased (c :: s) = if isCaseIgnorable c then meetsCased s else isCased c := by
  unfold meetsCased
  rw [List.dropWhile_cons]
  cases isCaseIgnorable c <;> rfl

theorem meetsCased_append_of_skipped {s : List Char} (skipped : Skipped s) (t : List Char) :
    meetsCased (s ++ t) = meetsCased t := by
  unfold meetsCased
  rw [List.dropWhile_append_of_pos skipped]

theorem meetsCased_append_of_not_skipped {s : List Char} (stops : ¬ Skipped s) (t : List Char) :
    meetsCased (s ++ t) = meetsCased s := by
  induction s with
  | nil => exact absurd (fun _ mem => absurd mem List.not_mem_nil) stops
  | cons c s ih =>
    rw [List.cons_append, meetsCased_cons, meetsCased_cons]
    cases skip : isCaseIgnorable c with
    | false => rfl
    | true => exact ih fun rest => stops (List.forall_mem_cons.mpr ⟨skip, rest⟩)

theorem meetsCased_of_skipped {s : List Char} (skipped : Skipped s) : meetsCased s = false := by
  have none := meetsCased_append_of_skipped skipped []
  rw [List.append_nil] at none
  rw [none]
  rfl

theorem skipped_reverse {s : List Char} : Skipped s.reverse ↔ Skipped s := by
  simp [Skipped]

/-- A sigma that is not open has the same form in every text around. -/
theorem final_of_not_open {before after : List Char} (closed : ¬ Open before after)
    (front back : List Char) :
    (meetsCased (before.reverse ++ front) && !meetsCased (after ++ back)) =
      (meetsCased before.reverse && !meetsCased after) := by
  rw [Open, not_or] at closed
  by_cases first : Skipped before
  · -- A cased letter follows, so the sigma is never final.
    have cased : meetsCased after = true := by
      cases met : meetsCased after with
      | true => rfl
      | false => exact absurd ⟨first, met⟩ closed.1
    have stops : ¬ Skipped after := by
      intro skipped
      rw [meetsCased_of_skipped skipped] at cased
      cases cased
    rw [meetsCased_append_of_not_skipped stops, cased, Bool.not_true, Bool.and_false,
      Bool.and_false]
  · have stops : ¬ Skipped before.reverse := fun skipped => first (skipped_reverse.mp skipped)
    rw [meetsCased_append_of_not_skipped stops]
    cases cased : meetsCased before.reverse with
    | false => rfl
    | true =>
      have stops : ¬ Skipped after := fun skipped => closed.2 ⟨cased, skipped⟩
      rw [meetsCased_append_of_not_skipped stops]

theorem lowerFrom_append (before s t : List Char) :
    lowerFrom before (s ++ t) = lowerBetween before s t ++ lowerFrom (s.reverse ++ before) t := by
  induction s generalizing before with
  | nil => rfl
  | cons c s ih =>
    rw [List.cons_append, lowerFrom, ih, lowerBetween, List.append_assoc, List.reverse_cons,
      List.append_assoc]
    rfl

theorem lowerBetween_append (before s t after : List Char) :
    lowerBetween before (s ++ t) after =
      lowerBetween before s (t ++ after) ++ lowerBetween (s.reverse ++ before) t after := by
  induction s generalizing before with
  | nil => rfl
  | cons c s ih =>
    rw [List.cons_append, lowerBetween, ih, lowerBetween, List.append_assoc, List.append_assoc,
      List.reverse_cons, List.append_assoc]
    rfl

theorem lower_eq_lowerBetween (s : List Char) : lower s = lowerBetween [] s [] := by
  have whole := lowerFrom_append [] s []
  rwa [List.append_nil, lowerFrom, List.append_nil] at whole

/-- The lowered form of a part of a text is a part of the lowered text. -/
theorem lower_append (a s b : List Char) :
    lower (a ++ s ++ b) = lowerBetween [] a (s ++ b) ++ lowerBetween a.reverse s b ++
      lowerFrom (s.reverse ++ a.reverse) b := by
  rw [lower, List.append_assoc, lowerFrom_append, List.append_nil, lowerFrom_append,
    List.append_assoc]

/-- A text that is decided has its own form in every text around. -/
theorem lowerBetween_of_decided {s : List Char} (decided : Decided s) (front back : List Char) :
    lowerBetween front s back = lower s := by
  -- The induction goes over what is left of the text, the part before it being fixed.
  have rest : ∀ before after, s = before ++ after →
      lowerBetween (before.reverse ++ front) after back = lowerBetween before.reverse after [] := by
    intro before after eq
    induction after generalizing before with
    | nil => rfl
    | cons c after ih =>
      have next := ih (before ++ [c]) (by simp [eq])
      rw [List.reverse_append, List.reverse_singleton, List.singleton_append, List.cons_append] at next
      rw [lowerBetween, lowerBetween, next, List.append_nil]
      by_cases sigma : c = 'Σ'
      · subst sigma
        have closed := decided_iff.mp decided before after eq
        rw [lowerAt, lowerAt, if_pos rfl, if_pos rfl, final_of_not_open closed]
      · rw [lowerAt, lowerAt, if_neg sigma, if_neg sigma]
  have all := rest [] s rfl
  rwa [List.reverse_nil, List.nil_append, ← lower_eq_lowerBetween] at all

theorem meetsCased_append_mono {t u : List Char} (le : meetsCased t = true → meetsCased u = true)
    (s : List Char) (met : meetsCased (s ++ t) = true) : meetsCased (s ++ u) = true := by
  by_cases skipped : Skipped s
  · rw [meetsCased_append_of_skipped skipped] at met ⊢
    exact le met
  · rwa [meetsCased_append_of_not_skipped skipped] at met ⊢

theorem count_lowerAt_le {p q t u : List Char} (front : meetsCased p = true → meetsCased q = true)
    (back : meetsCased u = true → meetsCased t = true) (c : Char) :
    (lowerAt q c u).count 'σ' ≤ (lowerAt p c t).count 'σ' ∧
      (lowerAt p c t).count 'ς' ≤ (lowerAt q c u).count 'ς' := by
  by_cases sigma : c = 'Σ'
  · rw [lowerAt, lowerAt, if_pos sigma, if_pos sigma]
    cases atP : meetsCased p <;> cases atQ : meetsCased q <;> cases atT : meetsCased t <;>
      cases atU : meetsCased u <;> simp_all
  · rw [lowerAt, lowerAt, if_neg sigma, if_neg sigma]
    exact ⟨Nat.le_refl _, Nat.le_refl _⟩

theorem count_lowerBetween_le {p q t u : List Char}
    (front : meetsCased p = true → meetsCased q = true)
    (back : meetsCased u = true → meetsCased t = true) (s : List Char) :
    (lowerBetween q s u).count 'σ' ≤ (lowerBetween p s t).count 'σ' ∧
      (lowerBetween p s t).count 'ς' ≤ (lowerBetween q s u).count 'ς' := by
  induction s generalizing p q with
  | nil => exact ⟨Nat.le_refl _, Nat.le_refl _⟩
  | cons c s ih =>
    have here := count_lowerAt_le front (meetsCased_append_mono back s) c
    have rest := ih (meetsCased_append_mono front [c])
    rw [List.singleton_append, List.singleton_append] at rest
    rw [lowerBetween, lowerBetween, List.count_append, List.count_append, List.count_append,
      List.count_append]
    omega

/-- A sigma that becomes final is one more of its form, and one less of the other. -/
theorem count_lowerBetween_lt {p q t u : List Char}
    (front : meetsCased p = true → meetsCased q = true)
    (back : meetsCased u = true → meetsCased t = true) (before after : List Char)
    (first : (meetsCased (before.reverse ++ p) && !meetsCased (after ++ t)) = false)
    (last : (meetsCased (before.reverse ++ q) && !meetsCased (after ++ u)) = true) :
    (lowerBetween q (before ++ 'Σ' :: after) u).count 'σ' <
        (lowerBetween p (before ++ 'Σ' :: after) t).count 'σ' ∧
      (lowerBetween p (before ++ 'Σ' :: after) t).count 'ς' <
        (lowerBetween q (before ++ 'Σ' :: after) u).count 'ς' := by
  have left := count_lowerBetween_le front (meetsCased_append_mono back ('Σ' :: after)) before
  have right := count_lowerBetween_le
    (meetsCased_append_mono (meetsCased_append_mono front before.reverse) ['Σ']) back after
  have open_ : lowerAt (before.reverse ++ p) 'Σ' (after ++ t) = ['σ'] := by
    rw [lowerAt, if_pos rfl, first]
    rfl
  have final : lowerAt (before.reverse ++ q) 'Σ' (after ++ u) = ['ς'] := by
    rw [lowerAt, if_pos rfl, last]
    rfl
  have one : ['σ'].count 'σ' = 1 ∧ ['σ'].count 'ς' = 0 ∧ ['ς'].count 'σ' = 0 ∧
      ['ς'].count 'ς' = 1 := by decide
  simp only [lowerBetween_append, lowerBetween, List.count_append, open_, final]
  simp only [List.singleton_append] at right
  omega

end RackInventory.Lowercase
