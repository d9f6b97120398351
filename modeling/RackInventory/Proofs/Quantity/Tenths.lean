import RackInventory.Proofs.Decimal.Nearest
import RackInventory.Quantity

/-!
# Quotients in tenths

A quotient is rounded three times before it is a number of tenths, and once more before these are
shown. The last of these loses nothing. The others keep the order, and they find the nearest tenth
wherever no quotient lies too close to the middle between two tenths without being there: for powers
of two that are small enough, and for divisors that are multiples of twenty.
-/

namespace RackInventory.Quantity

theorem unit_pos : 0 < doubleUnit := by decide

variable {value value' divisor n : Nat}

theorem roundedTenths_mono (positive : 0 < divisor) (le : value ≤ value') :
    roundedTenths value divisor ≤ roundedTenths value' divisor := by
  have scaled : 0 < divisor * doubleUnit := Nat.mul_pos positive unit_pos
  exact roundHalfUp_mono (nearestDouble_mono unit_pos
    (Nat.mul_le_mul_left _ (nearestDouble_mono scaled (nearestDouble_mono Nat.one_pos le))))

/-- Whether an integer has at most 53 bits in front of its zeros. -/
def IsDouble (n : Nat) : Prop := ∃ m shift, m < 2 ^ 53 ∧ n = m * 2 ^ shift

theorem isDouble_of_lt (short : n < 2 ^ 53) : IsDouble n := ⟨n, 0, short, (Nat.mul_one n).symm⟩

theorem nearestDouble_of_isDouble (double : IsDouble n) : nearestDouble n 1 = n * doubleUnit := by
  obtain ⟨m, shift, short, rfl⟩ := double
  rw [doubleUnit_eq, Nat.mul_assoc, ← Nat.pow_add]
  refine nearestDouble_exact Nat.one_pos short ?_
  rw [doubleUnit_eq, Nat.pow_add]
  ring

/-- A whole number of a divisor is ten times as many tenths. -/
theorem roundedTenths_mul (positive : 0 < divisor) {k : Nat} (double : IsDouble (k * divisor))
    (short : 10 * k < 2 ^ 53) : roundedTenths (k * divisor) divisor = 10 * k := by
  have quotient : nearestDouble (k * divisor * doubleUnit) (divisor * doubleUnit) = k * doubleUnit := by
    rw [Nat.mul_assoc]
    exact nearestDouble_mul (Nat.mul_pos positive unit_pos) (by omega)
  have tenfold : nearestDouble (10 * (k * doubleUnit)) doubleUnit = 10 * k * doubleUnit := by
    rw [← Nat.mul_assoc]
    exact nearestDouble_mul unit_pos short
  rw [roundedTenths, nearestDouble_of_isDouble double, quotient, tenfold, roundHalfUp_mul unit_pos]

/-- The tenths that are shown of a double that is nearest to some tenths are these. -/
theorem shownTenths_nearest (some : 0 < n) (small : n < 2 ^ 52) :
    shownTenths (nearestDouble n 10) = n := by
  have near := @nearestDouble_near n 10 (by decide) (by omega)
  have half : 2 * (shownTenths (nearestDouble n 10) * doubleUnit) ≤
        2 * (10 * nearestDouble n 10) + doubleUnit ∧
      2 * (10 * nearestDouble n 10) ≤
        2 * (shownTenths (nearestDouble n 10) * doubleUnit) + doubleUnit :=
    roundHalfEven_near unit_pos
  rw [doubleUnit_eq] at near half
  omega

/-- A double that is nearest to some tenths reaches an integer when they do. -/
theorem le_nearest_iff {k : Nat} (small : 10 * k < 2 ^ 52) :
    k * doubleUnit ≤ nearestDouble n 10 ↔ 10 * k ≤ n := by
  have whole : nearestDouble (k * 10) 10 = k * doubleUnit := nearestDouble_mul (by decide) (by omega)
  rw [← whole]
  constructor
  · intro reached
    by_contra below
    -- the next lower number of tenths is not rounded up to the integer
    have least : nearestDouble (k * 10) 10 ≤ nearestDouble (10 * k - 1) 10 :=
      reached.trans (nearestDouble_mono (by decide) (by omega))
    have near := (@nearestDouble_near (10 * k - 1) 10 (by decide) (by omega)).1
    rw [whole] at least
    rw [doubleUnit_eq] at least near
    omega
  · intro le
    exact nearestDouble_mono (by decide) (by omega)

/-- Whether tenths of a divisor are nearest to a value: no more than half a tenth away. -/
def Nearest (tenths divisor value : Nat) : Prop :=
  2 * (tenths * divisor) ≤ 20 * value + divisor ∧ 20 * value ≤ 2 * (tenths * divisor) + divisor

def tenfold (value divisor : Nat) : Nat :=
  nearestDouble (10 * nearestDouble (nearestDouble value 1) (divisor * doubleUnit)) doubleUnit

theorem roundedTenths_eq (value divisor : Nat) :
    roundedTenths value divisor = roundHalfUp (tenfold value divisor) doubleUnit := rfl

/-- The nearest integer to ten times a quotient, in multiples of the divisor. -/
theorem roundedTenths_near (value divisor : Nat) :
    2 * (roundedTenths value divisor * divisor * doubleUnit) ≤
        2 * (tenfold value divisor * divisor) + divisor * doubleUnit ∧
      2 * (tenfold value divisor * divisor) ≤
        2 * (roundedTenths value divisor * divisor * doubleUnit) + divisor * doubleUnit := by
  obtain ⟨most, least⟩ := @roundHalfUp_near (tenfold value divisor) _ unit_pos
  rw [← roundedTenths_eq] at most least
  have above := Nat.mul_le_mul_right divisor most
  have below := Nat.mul_le_mul_right divisor least.le
  rw [Nat.add_mul, Nat.mul_comm doubleUnit divisor] at above below
  refine ⟨le_of_eq_of_le ?_ (above.trans_eq ?_), le_of_eq_of_le ?_ (below.trans_eq ?_)⟩ <;> ring

/-- A quotient by a small power of two is not rounded before the nearest tenth is taken. -/
theorem nearest_of_power {e : Nat} (small : e ≤ 50) (short : value < 2 ^ 50) :
    Nearest (roundedTenths value (2 ^ e)) (2 ^ e) value := by
  have power : 2 ^ (60 - e) * 2 ^ e = doubleUnit := by
    rw [← Nat.pow_add, doubleUnit_eq]
    congr 1
    omega
  have bits : value < 2 ^ 53 := short.trans (by decide)
  have whole : nearestDouble value 1 = value * doubleUnit :=
    nearestDouble_of_isDouble (isDouble_of_lt bits)
  have quotient : nearestDouble (value * doubleUnit) (2 ^ e * doubleUnit) = value * 2 ^ (60 - e) := by
    refine nearestDouble_exact (Nat.mul_pos (Nat.two_pow_pos e) unit_pos) bits ?_
    rw [Nat.mul_assoc _ _ (2 ^ e * _), ← Nat.mul_assoc _ (2 ^ e), power]
    ring
  have exact : tenfold value (2 ^ e) * 2 ^ e = 10 * value * doubleUnit := by
    have last : nearestDouble (10 * (value * 2 ^ (60 - e))) doubleUnit =
        5 * value * 2 ^ (61 - e) := by
      refine nearestDouble_exact unit_pos (by clear power; omega) ?_
      rw [show 61 - e = 60 - e + 1 by omega, Nat.pow_succ]
      ring
    rw [tenfold, whole, quotient, last, show 61 - e = 60 - e + 1 by omega, Nat.pow_succ, ← power]
    ring
  obtain ⟨most, least⟩ := roundedTenths_near value (2 ^ e)
  rw [exact] at most least
  constructor
  · refine Nat.le_of_mul_le_mul_right (le_of_eq_of_le ?_ (most.trans_eq ?_)) unit_pos <;> ring
  · refine Nat.le_of_mul_le_mul_right (le_of_eq_of_le ?_ (least.trans_eq ?_)) unit_pos <;> ring

/-- The roundings of a quotient together move it by no more than three parts of its divisor. -/
theorem tenfold_near (positive : 0 < divisor) (reach : divisor ≤ 2 * value)
    (small : value ≤ 2 ^ 50) :
    tenfold value divisor * divisor ≤ 10 * value * doubleUnit + 3 * doubleUnit ∧
      10 * value * doubleUnit ≤ tenfold value divisor * divisor + 3 * doubleUnit := by
  have whole : nearestDouble value 1 = value * doubleUnit :=
    nearestDouble_of_isDouble (isDouble_of_lt (by omega))
  rw [tenfold, whole]
  generalize quotient : nearestDouble (value * doubleUnit) (divisor * doubleUnit) = q
  have first : 2 ^ 53 * (q * divisor) ≤ 2 ^ 53 * (value * doubleUnit) + value * doubleUnit ∧
      2 ^ 53 * (value * doubleUnit) ≤ 2 ^ 53 * (q * divisor) + value * doubleUnit := by
    have scaled : divisor * doubleUnit ≤ value * doubleUnit * 2 ^ 8 := by
      rw [Nat.mul_right_comm]
      exact Nat.mul_le_mul_right _ (by omega)
    obtain ⟨most, least⟩ := nearestDouble_near (Nat.mul_pos positive unit_pos) scaled
    rw [quotient] at most least
    constructor
    · refine Nat.le_of_mul_le_mul_right (le_of_eq_of_le ?_ (most.trans_eq ?_)) unit_pos <;> ring
    · refine Nat.le_of_mul_le_mul_right (le_of_eq_of_le ?_ (least.trans_eq ?_)) unit_pos <;> ring
  have second : 2 ^ 53 * nearestDouble (10 * q) doubleUnit ≤ 2 ^ 53 * (10 * q) + 10 * q ∧
      2 ^ 53 * (10 * q) ≤ 2 ^ 53 * nearestDouble (10 * q) doubleUnit + 10 * q := by
    have scaled : doubleUnit ≤ 10 * q * 2 ^ 8 := by
      refine Nat.le_of_mul_le_mul_right (c := divisor) ?_ positive
      rw [show 10 * q * 2 ^ 8 * divisor = 2560 * (q * divisor) by ring]
      generalize q * divisor = r at first
      rw [doubleUnit_eq] at *
      omega
    obtain ⟨most, least⟩ := nearestDouble_near unit_pos scaled
    constructor
    · refine Nat.le_of_mul_le_mul_right (le_of_eq_of_le ?_ (most.trans_eq ?_)) unit_pos <;> ring
    · refine Nat.le_of_mul_le_mul_right (le_of_eq_of_le ?_ (least.trans_eq ?_)) unit_pos <;> ring
  generalize nearestDouble (10 * q) doubleUnit = t at *
  have above := Nat.mul_le_mul_right divisor second.1
  have below := Nat.mul_le_mul_right divisor second.2
  rw [doubleUnit_eq] at *
  rw [Nat.add_mul, Nat.mul_assoc, Nat.mul_assoc, Nat.mul_assoc] at above below
  generalize q * divisor = r at *
  generalize t * divisor = s at *
  omega

/-- Tenths are no more than half a tenth and three parts of ten of their divisor away. -/
theorem roundedTenths_within (positive : 0 < divisor) (reach : divisor ≤ 2 * value)
    (small : value ≤ 2 ^ 50) :
    2 * (roundedTenths value divisor * divisor) ≤ 20 * value + divisor + 6 ∧
      20 * value ≤ 2 * (roundedTenths value divisor * divisor) + divisor + 6 := by
  obtain ⟨most, least⟩ := tenfold_near positive reach small
  obtain ⟨above, below⟩ := roundedTenths_near value divisor
  rw [doubleUnit_eq] at *
  generalize tenfold value divisor * divisor = t at *
  generalize roundedTenths value divisor * divisor = r at *
  omega

/-- A quotient by a multiple of twenty lies no closer than ten parts of it to the middle between two
tenths, unless it is there. -/
theorem nearest_of_twenty (positive : 0 < divisor) (twenty : 20 ∣ divisor)
    (reach : divisor ≤ 2 * value) (small : value ≤ 2 ^ 50) :
    Nearest (roundedTenths value divisor) divisor value := by
  obtain ⟨above, below⟩ := roundedTenths_within positive reach small
  obtain ⟨d, rfl⟩ := twenty
  have whole : roundedTenths value (20 * d) * (20 * d) = 20 * (roundedTenths value (20 * d) * d) :=
    Nat.mul_left_comm ..
  rw [whole] at above below
  rw [Nearest, whole]
  omega

/-- What is rounded to the next unit is at least one in that unit. -/
theorem ten_le_of_reached {base : Nat} (positive : 0 < divisor) (large : 20 ≤ base)
    (reach : divisor ≤ value) (small : value ≤ 2 ^ 50)
    (reached : 10 * base ≤ roundedTenths value divisor) :
    divisor * base ≤ 2 * value ∧ 10 ≤ roundedTenths value (divisor * base) := by
  have unit : 20 * divisor ≤ divisor * base := by
    rw [Nat.mul_comm 20]
    exact Nat.mul_le_mul_left _ large
  have tenths : 10 * (divisor * base) ≤ roundedTenths value divisor * divisor := by
    rw [Nat.mul_comm divisor, ← Nat.mul_assoc]
    exact Nat.mul_le_mul_right _ reached
  have above := (roundedTenths_within positive (by omega) small).1
  have next : divisor * base ≤ 2 * value := by omega
  have below := (roundedTenths_within (by omega) next small).2
  refine ⟨next, ?_⟩
  by_contra few
  have most : roundedTenths value (divisor * base) * (divisor * base) ≤ 9 * (divisor * base) :=
    Nat.mul_le_mul_right _ (by omega)
  omega

end RackInventory.Quantity
