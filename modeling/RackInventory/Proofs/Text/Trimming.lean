import Mathlib.Data.List.DropRight
import RackInventory.Text.Blank

/-!
# Trimming

What is left of a text starts and ends with characters that are no blanks. Blanks are either at the
low end of ASCII or above ASCII.
-/

namespace RackInventory

section

variable {α : Type} {p : α → Bool}

theorem trimBoth_of_none {l : List α} (none : ∀ a ∈ l, p a = false) : trimBoth p l = l := by
  have kept : ∀ l : List α, (∀ a ∈ l, p a = false) → l.dropWhile p = l := by
    intro l none
    cases l with
    | nil => rfl
    | cons a l => rw [List.dropWhile_cons_of_neg (by simp [none a List.mem_cons_self])]
  rw [trimBoth, kept l none, kept l.reverse fun a mem => none a (List.mem_reverse.mp mem),
    List.reverse_reverse]

theorem rdropWhile_append_of_self {xs : List α} (kept : xs.rdropWhile p = xs) (ys : List α) :
    (xs ++ ys).rdropWhile p = xs ++ ys.rdropWhile p := by
  rw [List.rdropWhile, List.reverse_append, List.dropWhile_append]
  split
  · next all =>
    have none : ys.rdropWhile p = [] := by simpa [List.rdropWhile] using all
    rw [none, List.append_nil]
    exact kept
  · rw [List.reverse_append, List.reverse_reverse]
    rfl

theorem trimBoth_append_cons {pre : List α} {x : α} (plain : p x = false) (rest : List α) :
    trimBoth p (pre ++ x :: rest) = pre.dropWhile p ++ x :: rest.rdropWhile p := by
  have start : (pre ++ x :: rest).dropWhile p = pre.dropWhile p ++ [x] ++ rest := by
    rw [List.dropWhile_append]
    split
    · next all =>
      have none : pre.dropWhile p = [] := by simpa using all
      simp [none, plain]
    · simp
  have kept : (pre.dropWhile p ++ [x]).rdropWhile p = pre.dropWhile p ++ [x] :=
    List.rdropWhile_concat_neg p _ x (by simp [plain])
  change ((pre ++ x :: rest).dropWhile p).rdropWhile p = _
  rw [start, rdropWhile_append_of_self kept]
  simp

end

theorem apart_of_isBlank {c : Char} (blank : isBlank c = true) :
    c.toNat ≤ 0x20 ∨ 0x80 ≤ c.toNat := by
  simp only [isBlank, Bool.or_eq_true, Bool.and_eq_true, decide_eq_true_eq, beq_iff_eq] at blank
  omega

end RackInventory
