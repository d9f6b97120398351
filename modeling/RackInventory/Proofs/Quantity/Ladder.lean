import Mathlib.Tactic.Linarith
import RackInventory.Proofs.Quantity.Tenths

/-!
# The unit that is chosen

Climbing a ladder ends at the highest unit that a value reaches, or at the lowest. One more unit is
climbed when the value would be shown as a whole next unit. On the unit that is chosen a value other
than zero is shown as one or more, and as less than the next unit if there is one.

Ladders are considered whose base is large and whose units are small against what a double holds
exactly, and values of 64 bits.
-/

namespace RackInventory

open Quantity

namespace UnitLadder

def units (l : UnitLadder) : List String := l.first :: l.larger

def top (l : UnitLadder) : Nat := l.base ^ l.larger.length

/-- Whether all values of 64 bits can be told in the units of a ladder: whole numbers of the largest
unit are doubles, and the smaller units are so anyway. -/
structure Suits (l : UnitLadder) : Prop where
  large : 20 ≤ l.base
  small : l.base < 2 ^ 40
  short : l.top < 2 ^ 50 + 1
  reaches : 2 ^ 64 ≤ 2 ^ 40 * l.top
  whole : ∀ k, k * l.top < 2 ^ 64 + l.top → IsDouble (k * l.top)

theorem top_byteUnits : byteUnits.top = 2 ^ 50 := by decide

theorem top_bitRateUnits : bitRateUnits.top = 5 ^ 12 * 2 ^ 12 := by decide

theorem byteUnits_suits : byteUnits.Suits where
  large := by decide
  small := by decide
  short := by decide
  reaches := by decide
  whole k below := by
    rw [top_byteUnits] at below ⊢
    exact ⟨k, 50, by omega, rfl⟩

theorem bitRateUnits_suits : bitRateUnits.Suits where
  large := by decide
  small := by decide
  short := by decide
  reaches := by decide
  whole k below := by
    rw [top_bitRateUnits] at below ⊢
    exact ⟨k * 5 ^ 12, 12, by linarith, (Nat.mul_assoc ..).symm⟩

structure IsRung (l : UnitLadder) (k : Nat) (r : Rung) : Prop where
  divisor : r.divisor = l.base ^ k
  units : l.units.drop k = r.unit :: r.larger

structure Holds (l : UnitLadder) (value k : Nat) (r : Rung) : Prop extends l.IsRung k r where
  below : r.larger = [] ∨ value < r.divisor * l.base

/-- The highest rung that a value reaches, or the lowest. -/
structure Climbed (l : UnitLadder) (value k : Nat) (r : Rung) : Prop extends l.Holds value k r where
  reached : k = 0 ∨ r.divisor ≤ value

variable {l : UnitLadder} {value value' k k' : Nat} {r r' : Rung}

theorem isRung_first (l : UnitLadder) : l.IsRung 0 ⟨1, l.first, l.larger⟩ := ⟨rfl, rfl⟩

theorem IsRung.next (h : l.IsRung k r) {next : String} {larger : List String}
    (more : r.larger = next :: larger) : l.IsRung (k + 1) ⟨r.divisor * l.base, next, larger⟩ := by
  refine ⟨by rw [h.divisor, Nat.pow_succ], ?_⟩
  have units := h.units
  rw [more] at units
  rw [← List.drop_drop, units]
  rfl

theorem IsRung.length (h : l.IsRung k r) : k + r.larger.length = l.larger.length := by
  have lengths := congrArg List.length h.units
  rw [List.length_drop, UnitLadder.units, List.length_cons, List.length_cons] at lengths
  omega

theorem IsRung.unit (h : l.IsRung k r) : l.units[k]? = some r.unit := by
  rw [← List.head?_drop, h.units]
  rfl

theorem IsRung.last_iff (h : l.IsRung k r) : r.larger = [] ↔ k = l.larger.length := by
  have length := h.length
  rw [← List.length_eq_zero_iff]
  omega

/-- What is above a rung is no larger than the largest unit. -/
theorem IsRung.mul_base_le (suits : l.Suits) (h : l.IsRung k r) (more : r.larger ≠ []) :
    r.divisor * l.base ≤ l.top := by
  have length := h.length
  have some := List.length_pos_iff.mpr more
  have large := suits.large
  rw [h.divisor, ← Nat.pow_succ]
  exact Nat.pow_le_pow_right (by omega) (by omega)

theorem IsRung.pos (suits : l.Suits) (h : l.IsRung k r) : 0 < r.divisor := by
  have large := suits.large
  rw [h.divisor]
  exact Nat.pow_pos (by omega)

theorem climb_climbed (h : l.IsRung k r) (reached : k = 0 ∨ r.divisor ≤ value) (suits : l.Suits) :
    ∃ k', l.Climbed value k' (climb l.base value r.divisor r.unit r.larger) := by
  obtain ⟨divisor, unit, larger⟩ := r
  induction larger generalizing k divisor unit with
  | nil => exact ⟨k, ⟨h, Or.inl rfl⟩, reached⟩
  | cons next larger ih =>
    have positive := h.pos suits
    rw [climb]
    split
    · next further =>
      refine ih _ _ (h.next rfl) (Or.inr ?_)
      rw [Nat.mul_comm]
      exact (Nat.le_div_iff_mul_le positive).mp further
    · next ended =>
      refine ⟨k, ⟨h, Or.inr ?_⟩, reached⟩
      rw [Nat.mul_comm]
      exact (Nat.div_lt_iff_lt_mul positive).mp (not_le.mp ended)

/-- A larger value climbs no less far. -/
theorem Climbed.mono (suits : l.Suits) (h : l.Climbed value k r) (h' : l.Climbed value' k' r')
    (le : value ≤ value') : k ≤ k' := by
  by_contra above
  have length := h.length
  have more : r'.larger ≠ [] := by
    rw [Ne, h'.last_iff]
    omega
  have below := h'.below.resolve_left more
  have reached := h.reached.resolve_left (by omega)
  have large := suits.large
  have powers : r'.divisor * l.base ≤ r.divisor := by
    rw [h.divisor, h'.divisor, ← Nat.pow_succ]
    exact Nat.pow_le_pow_right (by omega) (by omega)
  omega

section Holds

variable (suits : l.Suits) (h : l.Holds value k r) (fits : value < 2 ^ 64)

include suits h fits

/-- Whole numbers of a unit up to the value and the next one are doubles. -/
theorem Holds.isDouble {m : Nat} (le : m ≤ value / r.divisor + 1) :
    IsDouble (m * r.divisor) ∧ 10 * m < 2 ^ 52 := by
  have positive := h.pos suits
  have small := suits.small
  have short := suits.short
  by_cases last : r.larger = []
  · have top : r.divisor = l.top := by rw [h.divisor, h.last_iff.mp last, top]
    have reaches := suits.reaches
    have whole := Nat.div_mul_le_self value r.divisor
    have multiple : m * r.divisor ≤ value / r.divisor * r.divisor + r.divisor := by
      rw [← Nat.succ_mul]
      exact Nat.mul_le_mul_right _ le
    have quotient : value / r.divisor < 2 ^ 40 :=
      (Nat.div_lt_iff_lt_mul positive).mpr (by rw [top]; omega)
    refine ⟨?_, by omega⟩
    rw [top] at whole multiple ⊢
    exact suits.whole m (by omega)
  · have next := h.mul_base_le suits last
    have quotient : value / r.divisor < l.base :=
      Nat.div_lt_of_lt_mul (h.below.resolve_left last)
    have multiple : m * r.divisor ≤ r.divisor * l.base := by
      rw [Nat.mul_comm]
      exact Nat.mul_le_mul_left _ (by omega)
    exact ⟨isDouble_of_lt (by omega), by omega⟩

theorem Holds.le_roundedTenths :
    10 * (value / r.divisor) ≤ roundedTenths value r.divisor := by
  have positive := h.pos suits
  obtain ⟨double, short⟩ := h.isDouble suits fits (Nat.le_succ (value / r.divisor))
  rw [← roundedTenths_mul positive double (by omega)]
  exact roundedTenths_mono positive (Nat.div_mul_le_self _ _)

theorem Holds.roundedTenths_le :
    roundedTenths value r.divisor ≤ 10 * (value / r.divisor + 1) := by
  have positive := h.pos suits
  obtain ⟨double, short⟩ := h.isDouble suits fits (Nat.le_refl (value / r.divisor + 1))
  rw [← roundedTenths_mul positive double (by omega)]
  exact roundedTenths_mono positive (Nat.lt_mul_of_div_lt (Nat.lt_succ_self _) positive).le

/-- A whole number of the unit is not rounded. -/
theorem Holds.roundedTenths_of_dvd (whole : r.divisor ∣ value) :
    roundedTenths value r.divisor = 10 * (value / r.divisor) := by
  obtain ⟨double, short⟩ := h.isDouble suits fits (Nat.le_succ (value / r.divisor))
  rw [Nat.div_mul_cancel whole] at double
  conv_lhs => rw [← Nat.div_mul_cancel whole]
  refine roundedTenths_mul (h.pos suits) ?_ (by omega)
  rwa [Nat.div_mul_cancel whole]

theorem Holds.roundedTenths_small : roundedTenths value r.divisor < 2 ^ 52 :=
  (h.roundedTenths_le suits fits).trans_lt (h.isDouble suits fits (Nat.le_refl _)).2

end Holds

/-- Whether the next unit is reached by rounding. -/
theorem reaches_iff (suits : l.Suits) {divisor : Nat} :
    l.base * doubleUnit ≤ rounded value divisor ↔ 10 * l.base ≤ roundedTenths value divisor :=
  le_nearest_iff (by have := suits.small; omega)

/-- The rung on which a value is shown: where climbing ends, if the value is shown there as less than
the next unit, or the next one. -/
structure Settled (l : UnitLadder) (value k : Nat) (r : Rung) : Prop extends l.Holds value k r where
  chosen : (l.Climbed value k r ∧ (r.larger ≠ [] → roundedTenths value r.divisor < 10 * l.base)) ∨
    ∃ j lower, k = j + 1 ∧ l.Climbed value j lower ∧ lower.larger ≠ [] ∧
      10 * l.base ≤ roundedTenths value lower.divisor

section Settled

variable (suits : l.Suits) (fits : value < 2 ^ 64)

include suits fits

theorem settle_settled (h : l.Climbed value k r) :
    ∃ k', l.Settled value k' (settle l.base value r) := by
  unfold settle
  split
  · next last => exact ⟨k, h.toHolds, Or.inl ⟨h, fun more => absurd last more⟩⟩
  · next next larger more =>
    have inner : r.larger ≠ [] := by rw [more]; exact List.cons_ne_nil _ _
    have below := h.below.resolve_left inner
    split
    · next further =>
      have reached := (reaches_iff suits).mp further.2
      refine ⟨k + 1, ⟨h.next more, Or.inr ?_⟩, Or.inr ⟨k, r, rfl, h, inner, reached⟩⟩
      exact below.trans_le (Nat.le_mul_of_pos_right _ (by have := suits.large; omega))
    · next stays =>
      refine ⟨k, h.toHolds, Or.inl ⟨h, fun _ => ?_⟩⟩
      by_cases whole : value % r.divisor = 0
      · rw [h.roundedTenths_of_dvd suits fits (Nat.dvd_of_mod_eq_zero whole)]
        have quotient := Nat.div_lt_of_lt_mul below
        omega
      · exact not_le.mp fun reached => stays ⟨whole, (reaches_iff suits).mpr reached⟩

omit fits in
/-- A larger value is shown in no smaller unit. -/
theorem Settled.mono {r' : Rung} (h : l.Settled value k r) (h' : l.Settled value' k' r')
    (le : value ≤ value') : k ≤ k' := by
  rcases h.chosen with ⟨climbed, -⟩ | ⟨j, lower, rfl, climbed, inner, reached⟩
  · rcases h'.chosen with ⟨climbed', -⟩ | ⟨j', lower', rfl, climbed', -, -⟩
    · exact climbed.mono suits climbed' le
    · exact (climbed.mono suits climbed' le).trans (Nat.le_succ j')
  · rcases h'.chosen with ⟨climbed', stays⟩ | ⟨j', lower', rfl, climbed', -, -⟩
    · -- where the smaller value is rounded up to the next unit, the larger one is too
      rcases Nat.lt_or_eq_of_le (climbed.mono suits climbed' le) with less | rfl
      · exact less
      · have same : lower.divisor = r'.divisor := by rw [climbed.divisor, climbed'.divisor]
        have inner' : r'.larger ≠ [] := by rwa [Ne, h'.last_iff, ← climbed.last_iff]
        have further := roundedTenths_mono (climbed.pos suits) le
        rw [same] at further reached
        have short := stays inner'
        omega
    · exact Nat.succ_le_succ (climbed.mono suits climbed' le)

/-- A value other than zero is shown as one or more. -/
theorem Settled.least (h : l.Settled value k r) (some : value ≠ 0) :
    r.divisor ≤ 2 * value ∧ 10 ≤ roundedTenths value r.divisor := by
  have large := suits.large
  rcases h.chosen with ⟨climbed, -⟩ | ⟨j, lower, rfl, climbed, inner, reached⟩
  · have reach : r.divisor ≤ value := by
      rcases climbed.reached with rfl | reach
      · rw [h.divisor, Nat.pow_zero]
        omega
      · exact reach
    have quotient : 1 ≤ value / r.divisor := (Nat.one_le_div_iff (h.pos suits)).mpr reach
    have tenths := climbed.le_roundedTenths suits fits
    omega
  · have top := climbed.mul_base_le suits inner
    have short := suits.short
    have below := climbed.below.resolve_left inner
    have quotient := climbed.roundedTenths_le suits fits
    have reach : lower.divisor ≤ value :=
      (Nat.one_le_div_iff (climbed.pos suits)).mp (by omega)
    have next : r.divisor = lower.divisor * l.base := by
      rw [h.divisor, climbed.divisor, Nat.pow_succ]
    rw [next]
    exact ten_le_of_reached (climbed.pos suits) large reach (by omega) reached

/-- A value is shown as less than the next unit, if there is one. -/
theorem Settled.most (h : l.Settled value k r) (inner : r.larger ≠ []) :
    roundedTenths value r.divisor < 10 * l.base := by
  have large := suits.large
  rcases h.chosen with ⟨-, stays⟩ | ⟨j, lower, rfl, climbed, inner', -⟩
  · exact stays inner
  · have next : r.divisor = lower.divisor * l.base := by
      rw [h.divisor, climbed.divisor, Nat.pow_succ]
    have none : value / r.divisor = 0 :=
      Nat.div_eq_of_lt (next ▸ climbed.below.resolve_left inner')
    have tenths := h.roundedTenths_le suits fits
    omega

theorem Settled.eq_zero_iff (h : l.Settled value k r) :
    roundedTenths value r.divisor = 0 ↔ value = 0 := by
  constructor
  · intro none
    by_contra some
    have least := (h.least suits fits some).2
    omega
  · rintro rfl
    rw [h.roundedTenths_of_dvd suits fits (dvd_zero _), Nat.zero_div]

/-- What is shown of a larger value is no less, in the unit of either. -/
theorem Settled.roundedTenths_mul_le {r' : Rung} (fits' : value' < 2 ^ 64) (h : l.Settled value k r)
    (h' : l.Settled value' k' r') (le : value ≤ value') :
    roundedTenths value r.divisor * r.divisor ≤ roundedTenths value' r'.divisor * r'.divisor := by
  have large := suits.large
  rcases Nat.lt_or_eq_of_le (h.mono suits h' le) with less | same
  · by_cases zero : value = 0
    · rw [(h.eq_zero_iff suits fits).mpr zero, Nat.zero_mul]
      exact Nat.zero_le _
    · have length := h'.length
      have inner : r.larger ≠ [] := by
        rw [Ne, h.last_iff]
        omega
      have most := h.most suits fits inner
      have least := (h'.least suits fits' (by omega)).2
      have units : r.divisor * l.base ≤ r'.divisor := by
        rw [h.divisor, h'.divisor, ← Nat.pow_succ]
        exact Nat.pow_le_pow_right (by omega) less
      calc roundedTenths value r.divisor * r.divisor
          ≤ 10 * l.base * r.divisor := Nat.mul_le_mul_right _ most.le
        _ = 10 * (r.divisor * l.base) := by ring
        _ ≤ 10 * r'.divisor := Nat.mul_le_mul_left _ units
        _ ≤ roundedTenths value' r'.divisor * r'.divisor := Nat.mul_le_mul_right _ least
  · have divisors : r.divisor = r'.divisor := by rw [h.divisor, h'.divisor, same]
    rw [divisors]
    exact Nat.mul_le_mul_right _ (roundedTenths_mono (h'.pos suits) le)

/-- The tenths that are shown are the rounded ones, also where the value is a whole number of the
unit and nothing is rounded. -/
theorem Settled.shown (h : l.Settled value k r) :
    (if value % r.divisor = 0 then 10 * (value / r.divisor) else shownTenths (rounded value r.divisor)) =
      roundedTenths value r.divisor := by
  split
  · next whole => rw [h.roundedTenths_of_dvd suits fits (Nat.dvd_of_mod_eq_zero whole)]
  · next part =>
    have some : value ≠ 0 := by
      rintro rfl
      exact part (Nat.zero_mod _)
    have least := (h.least suits fits some).2
    exact shownTenths_nearest (by omega) (h.roundedTenths_small suits fits)

end Settled

end UnitLadder

namespace Quantity

variable {l : UnitLadder} {value : Nat}

/-- A value is shown on the rung of the ladder that is chosen, in tenths of its unit. -/
theorem ofNat_settled (suits : l.Suits) (fits : value < 2 ^ 64) :
    ∃ k r, l.Settled value k r ∧
      ofNat l value = ⟨roundedTenths value r.divisor, r.unit, r.divisor⟩ := by
  obtain ⟨j, climbed⟩ : ∃ j, l.Climbed value j (climb l.base value 1 l.first l.larger) :=
    UnitLadder.climb_climbed l.isRung_first (Or.inl rfl) suits
  obtain ⟨k, settled⟩ := UnitLadder.settle_settled suits fits climbed
  refine ⟨k, _, settled, ?_⟩
  rw [ofNat, settled.shown suits fits]

end Quantity

end RackInventory
