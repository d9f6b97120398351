import RackInventory.Decimal.Shortest
import RackInventory.Proofs.Decimal.Rounding

/-!
# How long and how large the shortest decimal is

The decimal that stands for a double has at most 17 digits, and where it has an exponent above zero
it does not lie above the interval of its double.
-/

namespace RackInventory.Decimal

theorem lt_pow_digitCount (n : Nat) : n < 10 ^ digitCount n := by
  rw [digitCount]
  split_ifs with zero
  · rw [zero]
    decide
  · exact (Nat.length_toDigits_le_iff (by decide) Nat.length_toDigits_pos).1 (Nat.le_refl _)

/-- A number below one reaches one within as many steps as it has leading zeros. -/
theorem leadingZeros_lt {num den : Nat} (below : num < den) (fuel : Nat) :
    num * 10 ^ leadingZeros num den fuel < 10 * den := by
  induction fuel generalizing num with
  | zero => rw [leadingZeros, Nat.pow_zero]; omega
  | succ fuel ih =>
    rw [leadingZeros, if_neg (by omega)]
    by_cases next : num * 10 < den
    · have := ih next
      rwa [Nat.pow_succ', ← Nat.mul_assoc]
    · cases fuel with
      | zero => rw [leadingZeros]; omega
      | succ fuel => rw [leadingZeros, if_pos (by omega)]; omega

theorem lt_magnitude {num den : Nat} (positive : 0 < den) :
    (num : ℚ) < den * 10 ^ (magnitude num den + 1) := by
  rw [magnitude]
  split_ifs with whole
  · have digits := lt_pow_digitCount (num / den)
    rw [Nat.div_lt_iff_lt_mul positive, Nat.mul_comm] at digits
    rw [sub_add_cancel, zpow_natCast]
    exact_mod_cast digits
  · have zeros := leadingZeros_lt (not_le.1 whole) 400
    rw [zpow_add_one₀ (by norm_num), zpow_neg, zpow_natCast]
    have reached : (num : ℚ) * 10 ^ leadingZeros num den 400 < 10 * den := by exact_mod_cast zeros
    have power : (0 : ℚ) < 10 ^ leadingZeros num den 400 := by positivity
    rw [← div_eq_inv_mul, ← mul_div_assoc, lt_div_iff₀ power, mul_comm (den : ℚ)]
    exact reached

/-- A point in the interval is not above its end. -/
theorem holds_le {i : Interval} {c : Nat} {k : Int} (holds : i.holds c k = true) :
    (c : ℚ) * 10 ^ k * i.denominator ≤ i.high := by
  have natural : c * 10 ^ k.toNat * i.denominator ≤ i.high * 10 ^ (-k).toNat := by
    rw [Interval.holds] at holds
    split_ifs at holds with closed <;>
      rw [Bool.and_eq_true, decide_eq_true_eq, decide_eq_true_eq] at holds
    · exact holds.2
    · exact holds.2.le
  rw [Rounding.zpow_eq_div (by norm_num), ← mul_div_assoc, div_mul_eq_mul_div,
    div_le_iff₀ (by positivity)]
  exact_mod_cast natural

/-- The nearest point lies in the interval and is one of the two neighbours. -/
theorem nearest?_spec {i : Interval} {tie : Tie} {k : Int} {c : Nat}
    (nearest : i.nearest? tie k = some c) : i.holds c k = true ∧
      c ≤ i.value * 10 ^ (-k).toNat / (10 ^ k.toNat * i.denominator) + 1 := by
  simp only [Interval.nearest?] at nearest
  split at nearest
  · cases nearest
  · next here _ =>
    cases nearest
    exact ⟨here, Nat.le_succ _⟩
  · next _ after =>
    cases nearest
    exact ⟨after, Nat.le_refl _⟩
  · next here after =>
    have neighbour : c = i.value * 10 ^ (-k).toNat / (10 ^ k.toNat * i.denominator) ∨
        c = i.value * 10 ^ (-k).toNat / (10 ^ k.toNat * i.denominator) + 1 := by
      cases tie <;> simp only at nearest <;> split_ifs at nearest <;> cases nearest <;>
        first | exact .inl rfl | exact .inr rfl
    rcases neighbour with rfl | rfl
    · exact ⟨here, Nat.le_succ _⟩
    · exact ⟨after, Nat.le_refl _⟩

/-- With the first digit at the power of ten `top`, a point of the grid of step 10^(top - n) has at
most n + 1 digits, or is the next power of ten. -/
theorem nearest?_le {i : Interval} {tie : Tie} {top : Int} {n c : Nat}
    (positive : 0 < i.denominator) (first : (i.value : ℚ) < i.denominator * 10 ^ (top + 1))
    (nearest : i.nearest? tie (top - n) = some c) : c ≤ 10 ^ (n + 1) := by
  have natural : i.value * 10 ^ (-(top - n : Int)).toNat <
      10 ^ (n + 1) * (10 ^ (top - n : Int).toNat * i.denominator) := by
    have grid : (10 : ℚ) ^ (top + 1) = 10 ^ (n + 1) * 10 ^ (top - n : Int) := by
      rw [← zpow_natCast, ← zpow_add₀ (by norm_num)]
      congr 1
      push_cast
      omega
    have scale : (0 : ℚ) < 10 ^ (-(top - n : Int)).toNat := by positivity
    rw [grid, Rounding.zpow_eq_div (by norm_num) (top - n), ← mul_div_assoc, ← mul_div_assoc,
      lt_div_iff₀ scale] at first
    have : (i.value : ℚ) * 10 ^ (-(top - n : Int)).toNat <
        10 ^ (n + 1) * (10 ^ (top - n : Int).toNat * i.denominator) := by linarith
    exact_mod_cast this
  have below := (Nat.div_lt_iff_lt_mul (Nat.mul_pos (Nat.pow_pos (by decide)) positive)).2 natural
  exact (nearest?_spec nearest).2.trans below

/-- Trailing zeros are removed without a change of the number. -/
theorem strip_spec (c : Nat) (k : Int) (fuel : Nat) :
    (strip c k fuel).coefficient ≤ c ∧
      ((strip c k fuel).coefficient : ℚ) * 10 ^ (strip c k fuel).exponent = c * 10 ^ k := by
  induction fuel generalizing c k with
  | zero => exact ⟨Nat.le_refl c, rfl⟩
  | succ fuel ih =>
    rw [strip]
    split_ifs with zero
    · obtain ⟨least, same⟩ := ih (c / 10) (k + 1)
      refine ⟨least.trans (Nat.div_le_self c 10), same.trans ?_⟩
      have eq : c = c / 10 * 10 := by omega
      rw [zpow_add_one₀ (by norm_num)]
      conv_rhs => rw [eq]
      push_cast
      ring
    · exact ⟨Nat.le_refl c, rfl⟩

/-- A point in the interval around a double is not above the interval. -/
theorem around_le {m : Nat} {q : Int} {c : Nat} {k : Int}
    (holds : (Interval.around m q).holds c k = true) :
    (c : ℚ) * 10 ^ k ≤ (4 * m + 2) * 2 ^ (q - 2) := by
  have inside := holds_le holds
  change (c : ℚ) * 10 ^ k * (2 ^ (2 - q).toNat : Nat) ≤ ((4 * m + 2) * 2 ^ (q - 2).toNat : Nat)
    at inside
  rw [Rounding.zpow_eq_div (by norm_num) (q - 2), neg_sub, ← mul_div_assoc,
    le_div_iff₀ (by positivity)]
  exact_mod_cast inside

/-- The shortest decimal has at most 17 digits; where it has an exponent above zero, it is not above
the interval of its double. -/
theorem shortest_spec (tie : Tie) {m : Nat} (bits : m < 2 ^ 53) (q : Int) :
    (shortest tie m q).coefficient ≤ 10 ^ 17 ∧
      (0 < (shortest tie m q).exponent →
        ((shortest tie m q).coefficient : ℚ) * 10 ^ (shortest tie m q).exponent ≤
          (4 * m + 2) * 2 ^ (q - 2)) := by
  have positive : 0 < (Interval.around m q).denominator := Nat.pow_pos (by decide)
  have first : ((Interval.around m q).value : ℚ) < _ := lt_magnitude positive
  simp only [shortest]
  generalize magnitude (Interval.around m q).value (Interval.around m q).denominator = top at *
  split_ifs with zero
  · exact ⟨Nat.zero_le _, fun h => absurd h (by decide)⟩
  · cases found : (List.range 17).findSome? fun (n : Nat) =>
        ((Interval.around m q).nearest? tie (top - n)).map fun c => strip c (top - n) 20 with
    | none =>
      rw [Option.getD_none]
      exact ⟨bits.le.trans (by decide), fun above => absurd above (Int.lt_irrefl 0)⟩
    | some d =>
      obtain ⟨n, mem, eq⟩ := List.exists_of_findSome?_eq_some found
      obtain ⟨c, nearest, rfl⟩ := Option.map_eq_some_iff.1 eq
      obtain ⟨least, same⟩ := strip_spec c (top - n) 20
      have few : n + 1 ≤ 17 := List.mem_range.1 mem
      have size := (nearest?_le positive first nearest).trans (Nat.pow_le_pow_right (by decide) few)
      rw [Option.getD_some, same]
      exact ⟨least.trans size, fun _ => around_le (nearest?_spec nearest).1⟩

end RackInventory.Decimal
