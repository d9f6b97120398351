import Mathlib.Tactic.Ring
import Mathlib.Tactic.NormNum
import Mathlib.Tactic.SplitIfs
import RackInventory.Decimal.Rounding

/-!
# The nearest double

Rounding keeps the order of quotients with one denominator, leaves a number of 53 bits as it is, and
moves any other quotient by at most one part in 2^53. Quotients below 2^-8 are rounded in order too,
but nothing is said about how far they move.
-/

namespace RackInventory

section Half

variable {num num' den k : Nat}

/-- An integer is rounded to itself, and nothing else is rounded to more than half away. -/
theorem roundHalfEven_near (positive : 0 < den) :
    2 * (roundHalfEven num den * den) ≤ 2 * num + den ∧
      2 * num ≤ 2 * (roundHalfEven num den * den) + den := by
  have whole := Nat.div_add_mod' num den
  have part := Nat.mod_lt num positive
  have next : (num / den + 1) * den = num / den * den + den := Nat.succ_mul ..
  unfold roundHalfEven
  dsimp only
  split_ifs <;> omega

theorem roundHalfEven_mono (le : num ≤ num') : roundHalfEven num den ≤ roundHalfEven num' den := by
  have quotients : num / den ≤ num' / den := Nat.div_le_div_right le
  unfold roundHalfEven
  dsimp only
  rcases Nat.lt_or_eq_of_le quotients with less | same
  · split_ifs <;> omega
  · -- of two numbers with one quotient the larger has the larger remainder
    have first := Nat.div_add_mod num den
    have second := Nat.div_add_mod num' den
    rw [same] at first ⊢
    split_ifs <;> omega

theorem roundHalfEven_mul (positive : 0 < den) (k : Nat) : roundHalfEven (k * den) den = k := by
  simp [roundHalfEven, Nat.mul_div_cancel k positive, positive]

theorem roundHalfUp_mono (le : num ≤ num') : roundHalfUp num den ≤ roundHalfUp num' den :=
  Nat.div_le_div_right (by omega)

theorem roundHalfUp_near (positive : 0 < den) :
    2 * (roundHalfUp num den * den) ≤ 2 * num + den ∧
      2 * num < 2 * (roundHalfUp num den * den) + den := by
  have whole := Nat.div_add_mod' (2 * num + den) (2 * den)
  have part := Nat.mod_lt (2 * num + den) (show 0 < 2 * den by omega)
  have twice : roundHalfUp num den * (2 * den) = 2 * (roundHalfUp num den * den) :=
    Nat.mul_left_comm ..
  change roundHalfUp num den * (2 * den) + _ = _ at whole
  omega

theorem roundHalfUp_mul (positive : 0 < den) (k : Nat) : roundHalfUp (k * den) den = k := by
  have half : 2 * (k * den) + den = den + k * (2 * den) := by ring
  rw [roundHalfUp, half, Nat.add_mul_div_right _ _ (by omega), Nat.div_eq_of_lt (by omega),
    Nat.zero_add]

end Half

/-- The place of the last of 53 bits of a quotient, counted from 2^-60. -/
def lastPlace (num den : Nat) : Nat := Nat.log2 (num * 2 ^ 8 / den)

theorem doubleUnit_eq : doubleUnit = 2 ^ 60 := rfl

theorem nearestDouble_eq (num den : Nat) :
    nearestDouble num den =
      roundHalfEven (num * doubleUnit) (den * 2 ^ lastPlace num den) * 2 ^ lastPlace num den := rfl

section Double

variable {num num' den : Nat}

theorem lt_lastPlace (positive : 0 < den) : num * 2 ^ 8 < 2 ^ (lastPlace num den + 1) * den :=
  (Nat.div_lt_iff_lt_mul positive).mp Nat.lt_log2_self

theorem lastPlace_le (positive : 0 < den) (reach : den ≤ num * 2 ^ 8) :
    2 ^ lastPlace num den * den ≤ num * 2 ^ 8 := by
  have some : num * 2 ^ 8 / den ≠ 0 := (Nat.div_pos reach positive).ne'
  exact (Nat.le_div_iff_mul_le positive).mp (Nat.log2_self_le some)

/-- A quotient whose last place is not the lowest reaches 2^-8. -/
theorem reach_of_lastPlace (some : lastPlace num den ≠ 0) : den ≤ num * 2 ^ 8 := by
  by_contra below
  rw [lastPlace, Nat.div_eq_of_lt (not_le.mp below), Nat.log2_zero] at some
  exact some rfl

/-- A rounded quotient has at most 53 bits in front of its last place. -/
theorem roundHalfEven_le (positive : 0 < den) :
    roundHalfEven (num * doubleUnit) (den * 2 ^ lastPlace num den) ≤ 2 ^ 53 := by
  have above : num * 2 ^ 8 < 2 ^ (lastPlace num den + 1) * den := lt_lastPlace positive
  have most : num * doubleUnit ≤ 2 ^ 53 * (den * 2 ^ lastPlace num den) := by
    rw [Nat.pow_succ] at above
    rw [doubleUnit_eq]
    calc num * 2 ^ 60 = num * 2 ^ 8 * 2 ^ 52 := by ring
      _ ≤ 2 ^ lastPlace num den * 2 * den * 2 ^ 52 := Nat.mul_le_mul_right _ above.le
      _ = 2 ^ 53 * (den * 2 ^ lastPlace num den) := by ring
  calc roundHalfEven (num * doubleUnit) (den * 2 ^ lastPlace num den)
      ≤ roundHalfEven (2 ^ 53 * (den * 2 ^ lastPlace num den)) (den * 2 ^ lastPlace num den) :=
        roundHalfEven_mono most
    _ = 2 ^ 53 := roundHalfEven_mul (Nat.mul_pos positive (Nat.two_pow_pos _)) _

/-- A rounded quotient that reaches 2^-8 has no fewer than 53 bits. -/
theorem le_roundHalfEven (positive : 0 < den) (reach : den ≤ num * 2 ^ 8) :
    2 ^ 52 ≤ roundHalfEven (num * doubleUnit) (den * 2 ^ lastPlace num den) := by
  have below := lastPlace_le positive reach
  have least : 2 ^ 52 * (den * 2 ^ lastPlace num den) ≤ num * doubleUnit := by
    rw [doubleUnit_eq]
    calc 2 ^ 52 * (den * 2 ^ lastPlace num den) = 2 ^ lastPlace num den * den * 2 ^ 52 := by ring
      _ ≤ num * 2 ^ 8 * 2 ^ 52 := Nat.mul_le_mul_right _ below
      _ = num * 2 ^ 60 := by ring
  calc 2 ^ 52
      = roundHalfEven (2 ^ 52 * (den * 2 ^ lastPlace num den)) (den * 2 ^ lastPlace num den) :=
        (roundHalfEven_mul (Nat.mul_pos positive (Nat.two_pow_pos _)) _).symm
    _ ≤ _ := roundHalfEven_mono least

theorem lastPlace_mono (le : num ≤ num') : lastPlace num den ≤ lastPlace num' den := by
  have quotients : num * 2 ^ 8 / den ≤ num' * 2 ^ 8 / den :=
    Nat.div_le_div_right (Nat.mul_le_mul_right _ le)
  by_cases zero : num * 2 ^ 8 / den = 0
  · rw [lastPlace, zero, Nat.log2_zero]
    exact Nat.zero_le _
  · have some : num' * 2 ^ 8 / den ≠ 0 := ((Nat.pos_of_ne_zero zero).trans_le quotients).ne'
    exact (Nat.le_log2 some).mpr ((Nat.log2_self_le zero).trans quotients)

/-- Rounding keeps the order. -/
theorem nearestDouble_mono (positive : 0 < den) (le : num ≤ num') :
    nearestDouble num den ≤ nearestDouble num' den := by
  have places : lastPlace num den ≤ lastPlace num' den := lastPlace_mono le
  rw [nearestDouble_eq, nearestDouble_eq]
  rcases Nat.lt_or_eq_of_le places with less | same
  · have reach : den ≤ num' * 2 ^ 8 := reach_of_lastPlace (by omega)
    have powers : 2 ^ 53 * 2 ^ lastPlace num den ≤ 2 ^ 52 * 2 ^ lastPlace num' den := by
      rw [show 2 ^ 53 * 2 ^ lastPlace num den = 2 ^ 52 * 2 ^ (lastPlace num den + 1) by ring]
      exact Nat.mul_le_mul_left _ (Nat.pow_le_pow_right Nat.two_pos less)
    exact (Nat.mul_le_mul_right _ (roundHalfEven_le positive)).trans
      (powers.trans (Nat.mul_le_mul_right _ (le_roundHalfEven positive reach)))
  · rw [same]
    exact Nat.mul_le_mul_right _ (roundHalfEven_mono (Nat.mul_le_mul_right _ le))

/-- A quotient is not moved when it is a multiple of its last place. -/
theorem nearestDouble_of_dvd (positive : 0 < den)
    (whole : den * 2 ^ lastPlace num den ∣ num * doubleUnit) :
    nearestDouble num den * den = num * doubleUnit := by
  obtain ⟨k, eq⟩ := whole
  rw [nearestDouble_eq, eq, Nat.mul_comm _ k,
    roundHalfEven_mul (Nat.mul_pos positive (Nat.two_pow_pos _))]
  ring

/-- A quotient of 53 bits, shifted or not, is not moved. -/
theorem nearestDouble_exact (positive : 0 < den) {m shift : Nat} (short : m < 2 ^ 53)
    (eq : num * doubleUnit = m * 2 ^ shift * den) : nearestDouble num den = m * 2 ^ shift := by
  have place : lastPlace num den ≤ shift := by
    by_contra above
    have reach : den ≤ num * 2 ^ 8 := reach_of_lastPlace (by omega)
    have least : 2 ^ (shift + 1) * den ≤ num * 2 ^ 8 :=
      (Nat.mul_le_mul_right _ (Nat.pow_le_pow_right Nat.two_pos (not_le.mp above))).trans
        (lastPlace_le positive reach)
    have most : 2 ^ 53 * (2 ^ shift * den) ≤ m * (2 ^ shift * den) :=
      calc 2 ^ 53 * (2 ^ shift * den) = 2 ^ 52 * (2 ^ (shift + 1) * den) := by ring
        _ ≤ 2 ^ 52 * (num * 2 ^ 8) := Nat.mul_le_mul_left _ least
        _ = num * doubleUnit := by rw [doubleUnit_eq]; ring
        _ = m * (2 ^ shift * den) := by rw [eq, Nat.mul_assoc]
    have shifted : 0 < 2 ^ shift * den := Nat.mul_pos (Nat.two_pow_pos _) positive
    exact absurd short (not_lt.mpr (Nat.le_of_mul_le_mul_right most shifted))
  have whole : den * 2 ^ lastPlace num den ∣ num * doubleUnit := by
    rw [eq, Nat.mul_comm den]
    exact Nat.mul_dvd_mul_right ((Nat.pow_dvd_pow 2 place).mul_left m) den
  apply Nat.eq_of_mul_eq_mul_right positive
  rw [nearestDouble_of_dvd positive whole, eq]

/-- A multiple of the denominator by a number of 53 bits is not moved. -/
theorem nearestDouble_mul (positive : 0 < den) {m : Nat} (short : m < 2 ^ 53) :
    nearestDouble (m * den) den = m * doubleUnit :=
  nearestDouble_exact (m := m) positive short (Nat.mul_right_comm _ _ (2 ^ 60))

/-- A quotient is moved by at most one part in 2^53. -/
theorem nearestDouble_near (positive : 0 < den) (reach : den ≤ num * 2 ^ 8) :
    2 ^ 53 * (nearestDouble num den * den) ≤ 2 ^ 53 * (num * doubleUnit) + num * doubleUnit ∧
      2 ^ 53 * (num * doubleUnit) ≤ 2 ^ 53 * (nearestDouble num den * den) + num * doubleUnit := by
  have near := @roundHalfEven_near (num * doubleUnit) _
    (Nat.mul_pos positive (Nat.two_pow_pos (lastPlace num den)))
  have moved : roundHalfEven (num * doubleUnit) (den * 2 ^ lastPlace num den) *
      (den * 2 ^ lastPlace num den) = nearestDouble num den * den := by
    rw [nearestDouble_eq]
    ring
  have unit : 2 ^ 52 * (den * 2 ^ lastPlace num den) ≤ num * doubleUnit := by
    have below := lastPlace_le positive reach
    rw [doubleUnit_eq]
    calc 2 ^ 52 * (den * 2 ^ lastPlace num den) = 2 ^ lastPlace num den * den * 2 ^ 52 := by ring
      _ ≤ num * 2 ^ 8 * 2 ^ 52 := Nat.mul_le_mul_right _ below
      _ = num * 2 ^ 60 := by ring
  rw [moved] at near
  omega

end Double

end RackInventory
