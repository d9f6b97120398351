import Mathlib
import RackInventory.Json.Numeral

/-!
# Rounding of a product of doubles

A product is formed exactly, cut to 53 bits and raised by at most one unit, so it exceeds the exact
product by at most half a unit of its last place. It is infinite only from 2^1024 - 2^970 on. The
statements are about doubles whose significand fills its 53 bits; zeros and the small doubles below
them are not needed here.
-/

namespace RackInventory.Rounding

open Float.Model Float.Model.UnpackedFloat
open Json.Numeral (powerOfTen)

/-- The number m · 2^e. -/
def scaled (m : Nat) (e : Int) : ℚ := m * 2 ^ e

theorem zpow_eq_div {b : ℚ} (nonzero : b ≠ 0) (e : Int) :
    b ^ e = b ^ e.toNat / b ^ (-e).toNat := by
  rw [← zpow_natCast, ← zpow_natCast, ← zpow_sub₀ nonzero]
  congr 1
  omega

/-- A finite double m · 2^e whose significand m has 53 bits. -/
structure Full (x : UnpackedFloat) (m : Nat) (e : Int) : Prop where
  finite : ∃ sign positive, x = .finite sign m e positive
  bits : m.log2 = 52

theorem mantissa_repeat (em : ExtendedMantissa) (n : Nat) :
    (n.repeat ExtendedMantissa.shiftRightOne em).mantissa = em.mantissa / 2 ^ n := by
  induction n with
  | zero => exact (Nat.div_one em.mantissa).symm
  | succ n ih =>
    change (n.repeat ExtendedMantissa.shiftRightOne em).mantissa / 2 = _
    rw [ih, Nat.div_div_eq_div_mul, Nat.pow_succ]

theorem roundBit_repeat (em : ExtendedMantissa) (n : Nat) :
    ((n + 1).repeat ExtendedMantissa.shiftRightOne em).roundBit =
      (em.mantissa / 2 ^ n % 2 != 0) := by
  rw [← mantissa_repeat]
  rfl

/-- Rounding raises a mantissa by at most one, and only if half a unit or more was cut. -/
theorem roundedMantissa_le (em : ExtendedMantissa) :
    em.mantissa ≤ em.roundedMantissa ∧
      em.roundedMantissa ≤ em.mantissa + em.roundBit.toNat := by
  obtain ⟨m, round, sticky⟩ := em
  cases round <;> cases sticky <;>
    simp only [ExtendedMantissa.roundedMantissa, ExtendedMantissa.accuracy,
      Accuracy.roundToNearestEven, Bool.toNat_true, Bool.toNat_false] <;> omega

/-- A mantissa of which n bits were cut, rounded. -/
def cut (m n : Nat) : Nat :=
  (n.repeat ExtendedMantissa.shiftRightOne ⟨m, false, false⟩).roundedMantissa

theorem cut_zero (m : Nat) : cut m 0 = m := rfl

theorem cut_bounds (m n : Nat) : m / 2 ^ n ≤ cut m n ∧ cut m n ≤ m / 2 ^ n + 1 := by
  obtain ⟨low, high⟩ :=
    roundedMantissa_le (n.repeat ExtendedMantissa.shiftRightOne ⟨m, false, false⟩)
  rw [mantissa_repeat] at low high
  exact ⟨low, high.trans (Nat.add_le_add_left (Bool.toNat_le _) _)⟩

/-- A cut mantissa stands for at most half a unit more than the mantissa. -/
theorem cut_le (m n : Nat) : 2 * (cut m n * 2 ^ n) ≤ 2 * m + 2 ^ n := by
  cases n with
  | zero => rw [cut_zero]; omega
  | succ n =>
    have high := (roundedMantissa_le
      ((n + 1).repeat ExtendedMantissa.shiftRightOne ⟨m, false, false⟩)).2
    rw [mantissa_repeat, roundBit_repeat] at high
    change cut m (n + 1) ≤ m / 2 ^ (n + 1) + (m / 2 ^ n % 2 != 0).toNat at high
    -- the cut bits are the round bit and those below it
    have halves : m / 2 ^ (n + 1) = m / 2 ^ n / 2 := by
      rw [Nat.pow_succ, Nat.div_div_eq_div_mul]
    have bit : (m / 2 ^ n % 2 != 0).toNat = m / 2 ^ n % 2 := by
      rcases Nat.mod_two_eq_zero_or_one (m / 2 ^ n) with even | odd
      · rw [even]; rfl
      · rw [odd]; rfl
    have twice : 2 * cut m (n + 1) ≤ m / 2 ^ n + 1 := by
      rw [halves, bit] at high
      omega
    calc 2 * (cut m (n + 1) * 2 ^ (n + 1))
        = 2 * cut m (n + 1) * 2 ^ n * 2 := by rw [Nat.pow_succ]; ring
      _ ≤ (m / 2 ^ n + 1) * 2 ^ n * 2 := by gcongr
      _ = 2 * (m / 2 ^ n * 2 ^ n) + 2 ^ (n + 1) := by rw [Nat.pow_succ]; ring
      _ ≤ 2 * m + 2 ^ (n + 1) := by
          have := Nat.div_mul_le_self m (2 ^ n)
          omega

/-- A mantissa of n bits too many is shifted by these. -/
theorem shiftToTargetExponent_eq {m n : Nat} {e : Int} (bits : m.log2 = 52 + n)
    (low : -1074 ≤ e + n) :
    shiftToTargetExponent Format.binary64 m e .exact =
      (n.repeat ExtendedMantissa.shiftRightOne ⟨m, false, false⟩, e + n) := by
  have target : Format.binary64.targetExponent (totalExponent m e) = e + n := by
    simp only [Format.targetExponent, totalExponent, Format.mantissaBits, Format.minExponent, bits]
    norm_num
    omega
  have amount : (e + n - e).toNat = n := by omega
  rw [shiftToTargetExponent, target, shiftToExponent, amount]
  rfl

/-- Rounding cuts the bits beyond 53; if all of them were ones, that gives the next power of two. -/
theorem full_round (sign : Sign) {m n : Nat} {e : Int} (bits : m.log2 = 52 + n)
    (low : -1074 ≤ e + n) :
    ∃ r f, Full (roundWithAccuracy Format.binary64 sign m e .exact) r f ∧ e + n ≤ f ∧
      scaled r f = scaled (cut m n) (e + n) := by
  have nonzero : m ≠ 0 := by
    rintro rfl
    rw [Nat.log2_zero] at bits
    omega
  obtain ⟨least, below⟩ := (Nat.log2_eq_iff nonzero).1 bits
  have quotient : 2 ^ 52 ≤ m / 2 ^ n ∧ m / 2 ^ n < 2 ^ 53 := by
    rw [Nat.le_div_iff_mul_le (by positivity), Nat.div_lt_iff_lt_mul (by positivity),
      ← Nat.pow_add, ← Nat.pow_add]
    exact ⟨least, below.trans_eq (by congr 1; omega)⟩
  have bounds := cut_bounds m n
  have first : (n.repeat ExtendedMantissa.shiftRightOne ⟨m, false, false⟩).roundedMantissa =
      cut m n := rfl
  simp only [roundWithAccuracy, shiftToTargetExponent_eq bits low, first]
  by_cases carry : cut m n < 2 ^ 53
  · have full : (cut m n).log2 = 52 := (Nat.log2_eq_iff (by omega)).2 ⟨by omega, carry⟩
    have shift := shiftToTargetExponent_eq (n := 0) (e := e + n) full (by simpa using low)
    refine ⟨cut m n, e + n, ⟨⟨sign, by omega, ?_⟩, full⟩, le_refl _, rfl⟩
    simp only [shift, Nat.repeat, Nat.cast_zero, add_zero]
    rw [dif_neg (by omega)]
  · have carried : cut m n = 2 ^ 53 := by omega
    have beyond : (cut m n).log2 = 52 + 1 := by rw [carried, Nat.log2_two_pow]
    have shift := shiftToTargetExponent_eq (e := e + n) beyond (by omega)
    rw [carried] at shift
    refine ⟨2 ^ 52, e + n + 1, ⟨⟨sign, by decide, ?_⟩, Nat.log2_two_pow⟩, by omega, ?_⟩
    · simp only [carried]
      simp only [shift]
      rfl
    · rw [carried, scaled, scaled, zpow_add_one₀ (by norm_num)]
      push_cast
      ring

theorem scaled_mono {m n : Nat} (le : m ≤ n) (e : Int) : scaled m e ≤ scaled n e :=
  mul_le_mul_of_nonneg_right (Nat.cast_le.2 le) (zpow_nonneg (by norm_num) e)

/-- The unit of the last of 53 bits. -/
theorem unit_le {m n : Nat} {e : Int} (bits : m.log2 = 52 + n) :
    2 ^ 52 * 2 ^ (e + n) ≤ scaled m e := by
  have nonzero : m ≠ 0 := by
    rintro rfl
    rw [Nat.log2_zero] at bits
    omega
  calc (2 : ℚ) ^ 52 * 2 ^ (e + n)
      = scaled (2 ^ (52 + n)) e := by
        rw [scaled, zpow_add₀ (by norm_num), zpow_natCast]
        push_cast
        ring
    _ ≤ scaled m e := scaled_mono ((Nat.log2_eq_iff nonzero).1 bits).1 e

/-- A rounded number exceeds the number by at most half a unit of its last place. -/
theorem round_le (sign : Sign) {m n : Nat} {e : Int} (bits : m.log2 = 52 + n)
    (low : -1074 ≤ e + n) :
    ∃ r f, Full (roundWithAccuracy Format.binary64 sign m e .exact) r f ∧ e + n ≤ f ∧
      2 * scaled r f ≤ 2 * scaled m e + 2 ^ (e + n) ∧ (n = 0 → scaled r f = scaled m e) := by
  obtain ⟨r, f, full, least, value⟩ := full_round sign bits low
  refine ⟨r, f, full, least, ?_, ?_⟩
  · have cut : (2 : ℚ) * (cut m n * 2 ^ n) ≤ 2 * m + 2 ^ n := by exact_mod_cast cut_le m n
    have unit : (0 : ℚ) ≤ 2 ^ e := zpow_nonneg (by norm_num) e
    have := mul_le_mul_of_nonneg_right cut unit
    rw [value, scaled, scaled, zpow_add₀ (by norm_num), zpow_natCast]
    linarith
  · rintro rfl
    rw [value, cut_zero, Nat.cast_zero, add_zero]

/-- A rounded number exceeds the number by at most one part in 2^53. -/
theorem le_of_round {m r n : Nat} {e f : Int} (bits : m.log2 = 52 + n)
    (near : 2 * scaled r f ≤ 2 * scaled m e + 2 ^ (e + n)) :
    scaled r f ≤ scaled m e * (1 + 1 / 2 ^ 53) := by
  have unit := unit_le (e := e) bits
  linarith

/-- Where infinity begins: half a unit above the largest double. -/
def limit : ℚ := (2 ^ 54 - 1) * 2 ^ (970 : Int)

/-- Only a number from the limit on is rounded to an infinity. -/
theorem exponent_le {m r n : Nat} {e f : Int} (bits : m.log2 = 52 + n) (full : r.log2 = 52)
    (near : 2 * scaled r f ≤ 2 * scaled m e + 2 ^ (e + n)) (below : scaled m e < limit) :
    f ≤ 971 := by
  by_contra above
  have unit := unit_le (e := e) bits
  have result := unit_le (n := 0) (e := f) full
  have step (j : Int) : (2 : ℚ) ^ (970 + j) = 2 ^ (970 : Int) * 2 ^ j := zpow_add₀ two_ne_zero _ _
  have large {k : Int} (big : 971 < k) : (2 : ℚ) ^ (970 : Int) * 2 ^ (2 : Int) ≤ 2 ^ k :=
    (step 2).symm.trans_le (zpow_le_zpow_right₀ one_le_two big)
  rw [Nat.cast_zero, add_zero] at result
  have high := large (not_le.1 above)
  rw [limit] at below
  rcases le_or_gt (e + n) 971 with last | last
  · have small : (2 : ℚ) ^ (e + n) ≤ 2 ^ (970 : Int) * 2 ^ (1 : Int) :=
      (zpow_le_zpow_right₀ one_le_two last).trans_eq (step 1)
    linarith
  · have big := large last
    have positive : (0 : ℚ) < 2 ^ (970 : Int) := zpow_pos two_pos _
    generalize (2 : ℚ) ^ (970 : Int) = u at *
    linarith

/-- A double with a filled significand in the range of exponents is what its pattern spells out. -/
theorem Full.unpack_pack {x : UnpackedFloat} {m : Nat} {e : Int} (full : Full x m e)
    (low : -1074 ≤ e) (high : e ≤ 971) : Full (Float.Model.pack x).unpack m e := by
  obtain ⟨⟨sign, positive, rfl⟩, bits⟩ := full
  obtain ⟨least, most⟩ := (Nat.log2_eq_iff (by omega)).1 bits
  obtain ⟨biased, eq⟩ := Int.eq_ofNat_of_zero_le (show 0 ≤ e + 1075 by omega)
  have exponent : (e + (Format.exponentBias Format.binary64 : Int) + (52 : Nat)).toNat = biased := by
    change (e + (1023 : Nat) + (52 : Nat)).toNat = biased
    omega
  have packed : UnpackedFloat.pack Format.binary64 (.finite sign m e positive) =
      packComponents Format.binary64 sign (BitVec.ofNat 11 biased) (BitVec.ofNat 52 m) := by
    have finite : ¬ 2 ^ 11 ≤ biased + 1 := by omega
    simp only [UnpackedFloat.pack, exponent, if_neg finite, bits]
    rfl
  have ones : BitVec.ofNat 11 biased ≠ -1#11 := fun h => by
    have := congrArg BitVec.toNat h
    rw [BitVec.toNat_ofNat] at this
    change biased % 2 ^ 11 = 2047 at this
    omega
  have zeros : BitVec.ofNat 11 biased ≠ 0#11 := fun h => by
    have := congrArg BitVec.toNat h
    rw [BitVec.toNat_ofNat] at this
    change biased % 2 ^ 11 = 0 at this
    omega
  have significand : (1#1 ++ BitVec.ofNat 52 m).toNat = m := by
    rw [BitVec.toNat_append, ← Nat.shiftLeft_add_eq_or_of_lt (BitVec.isLt _), BitVec.toNat_ofNat]
    change 1 <<< 52 + m % 2 ^ 52 = m
    omega
  refine ⟨⟨Sign.ofBitVec (unpackSign (packComponents Format.binary64 sign (BitVec.ofNat 11 biased)
    (BitVec.ofNat 52 m))), positive, ?_⟩, bits⟩
  change UnpackedFloat.unpack Format.binary64
    (UnpackedFloat.pack Format.binary64 (.finite sign m e positive)) = _
  rw [packed]
  simp only [UnpackedFloat.unpack, unpackMantissa_packComponents, unpackExponent_packComponents,
    if_neg ones, if_neg zeros, significand]
  congr 1
  rw [BitVec.toNat_ofNat, Nat.mod_eq_of_lt (by omega)]
  change (biased : Int) - ((1023 : Nat) + (52 : Nat)) = e
  omega

theorem Full.isInf {x : UnpackedFloat} {m : Nat} {e : Int} (full : Full x m e) :
    x.isInf = false := by
  obtain ⟨⟨sign, positive, rfl⟩, bits⟩ := full
  rfl

/-- A number below the limit is rounded to a double at most half a unit above it, and to itself if
53 bits are enough. -/
theorem full_rounded (sign : Sign) {m n : Nat} {e : Int} (bits : m.log2 = 52 + n)
    (low : -1074 ≤ e + n) (below : scaled m e < limit) :
    ∃ r f, Full (Float.Model.pack (roundWithAccuracy Format.binary64 sign m e .exact)).unpack r f ∧
      e + n ≤ f ∧ 2 * scaled r f ≤ 2 * scaled m e + 2 ^ (e + n) ∧
        (n = 0 → scaled r f = scaled m e) := by
  obtain ⟨r, f, full, least, near, same⟩ := round_le sign bits low
  exact ⟨r, f, full.unpack_pack (by omega) (exponent_le bits full.bits near below), least, near,
    same⟩

theorem log2_shiftLeft {m : Nat} (nonzero : m ≠ 0) (n : Nat) : (m <<< n).log2 = m.log2 + n := by
  obtain ⟨least, below⟩ := (Nat.log2_eq_iff nonzero).1 rfl
  rw [Nat.shiftLeft_eq]
  have positive : m * 2 ^ n ≠ 0 := Nat.mul_ne_zero nonzero (Nat.two_pow_pos n).ne'
  refine (Nat.log2_eq_iff positive).2 ⟨?_, ?_⟩
  · rw [Nat.pow_add]
    exact Nat.mul_le_mul_right _ least
  · rw [Nat.add_right_comm, Nat.pow_add]
    exact Nat.mul_lt_mul_of_pos_right below (Nat.two_pow_pos n)

theorem limit_eq : limit = ((2 ^ 54 - 1) * 2 ^ 970 : Nat) := by
  have factor : ((2 ^ 54 - 1 : Nat) : ℚ) = 2 ^ 54 - 1 := by norm_num
  rw [limit, show (970 : Int) = (970 : Nat) from rfl, zpow_natCast, Nat.cast_mul, factor,
    Nat.cast_pow, Nat.cast_ofNat]

theorem natCast_lt_limit {n : Nat} (below : n < (2 ^ 54 - 1) * 2 ^ 970) : (n : ℚ) < limit := by
  rw [limit_eq, Nat.cast_lt]
  exact below

theorem scaled_shiftLeft (m n : Nat) : scaled (m <<< n) (-n) = m := by
  rw [scaled, Nat.shiftLeft_eq, zpow_neg, zpow_natCast]
  push_cast
  field_simp

/-- The double of an integer of 64 bits. -/
theorem full_toFloat {c : Nat} (nonzero : c ≠ 0) (fits : c < 2 ^ 64) :
    ∃ r f, Full (UInt64.ofNat c).toFloat.toModel.unpack r f ∧ -52 ≤ f ∧
      2 * scaled r f ≤ (2 * c + 2 ^ (c.log2 - 52) : Nat) ∧ (c < 2 ^ 53 → scaled r f = c) := by
  have word : (UInt64.ofNat c).toNat = c := UInt64.toNat_ofNat_of_lt' fits
  have log : c.log2 < 64 := (Nat.log2_lt nonzero).2 fits
  have sign : compare (c : Int) 0 = .gt := Int.compare_eq_gt.2 (by omega)
  -- the integer is first shifted up until its significand is full
  have amount : (0 - Format.binary64.targetExponent (totalExponent c 0)).toNat = 52 - c.log2 := by
    simp only [Format.targetExponent, totalExponent, Format.mantissaBits, Format.minExponent]
    norm_num
    omega
  have bits : (c <<< (52 - c.log2)).log2 = 52 + (c.log2 - 52) := by
    rw [log2_shiftLeft nonzero]
    omega
  have value := scaled_shiftLeft c (52 - c.log2)
  have below : scaled (c <<< (52 - c.log2)) (-(52 - c.log2 : Nat)) < limit := by
    rw [value]
    exact natCast_lt_limit (fits.trans (by decide +kernel))
  obtain ⟨r, f, full, least, near, same⟩ := full_rounded .positive bits (by omega) below
  rw [value] at near same
  refine ⟨r, f, ?_, by omega, near.trans ?_, fun small => same ?_⟩
  · change Full (Float.Model.pack (UnpackedFloat.normalize Format.binary64 (UInt64.ofNat c).toNat 0
      .positive)).unpack r f
    rw [word, UnpackedFloat.normalize, sign]
    change Full (Float.Model.pack (UnpackedFloat.round Format.binary64 .positive (c : Int).toNat
      0)).unpack r f
    rw [UnpackedFloat.round, decreaseExponent, Int.toNat_natCast, amount, zero_sub]
    exact full
  · have unit : (2 : ℚ) ^ (-(52 - c.log2 : Nat) + (c.log2 - 52 : Nat) : Int) ≤
        2 ^ ((c.log2 - 52 : Nat) : Int) := zpow_le_zpow_right₀ one_le_two (by omega)
    rw [zpow_natCast] at unit
    push_cast
    linarith
  · have := (Nat.log2_lt nonzero).2 small
    omega

/-- An integer of 54 + n bits is raised by at most 2^n. -/
theorem half_unit_le {c n : Nat} {v : ℚ} (bits : c.log2 ≤ 53 + n)
    (near : 2 * v ≤ (2 * c + 2 ^ (c.log2 - 52) : Nat)) : v ≤ (c + 2 ^ n : Nat) := by
  have unit : 2 ^ (c.log2 - 52) ≤ 2 ^ (n + 1) := Nat.pow_le_pow_right (by decide) (by omega)
  have twice : 2 * v ≤ (2 * (c + 2 ^ n) : Nat) :=
    near.trans (Nat.cast_le.2 (by rw [Nat.pow_succ] at unit; omega))
  rw [Nat.cast_mul, Nat.cast_ofNat] at twice
  linarith

/-- An exact product of more than 53 bits, rounded. -/
theorem full_product (sign : Sign) {m : Nat} {e : Int} (bits : 52 ≤ m.log2) (low : -1074 ≤ e)
    (below : scaled m e < limit) :
    ∃ r f, Full (Float.Model.pack (roundWithAccuracy Format.binary64 sign m e .exact)).unpack r f ∧
      e ≤ f ∧ scaled r f ≤ scaled m e * (1 + 1 / 2 ^ 53) := by
  obtain ⟨n, eq⟩ := Nat.exists_eq_add_of_le bits
  obtain ⟨r, f, full, least, near, -⟩ := full_rounded sign eq (by omega) below
  exact ⟨r, f, full, by omega, le_of_round eq near⟩

/-- Whether a double has a full significand, an exponent of at least -53 and at most the value
num / den. -/
def atMost (x : UnpackedFloat) (num den : Nat) : Bool :=
  match x with
  | .finite _ m e _ =>
    m.log2 = 52 && decide (-53 ≤ e) && decide (m * 2 ^ e.toNat * den ≤ num * 2 ^ (-e).toNat)
  | _ => false

theorem full_of_atMost {x : UnpackedFloat} {num den : Nat} (positive : 0 < den)
    (le : atMost x num den = true) :
    ∃ r f, Full x r f ∧ -53 ≤ f ∧ scaled r f ≤ num / den := by
  unfold atMost at le
  split at le
  · next sign m e pos =>
    simp only [Bool.and_eq_true, decide_eq_true_eq] at le
    obtain ⟨⟨bits, low⟩, value⟩ := le
    refine ⟨m, e, ⟨⟨sign, pos, rfl⟩, bits⟩, low, ?_⟩
    rw [scaled, zpow_eq_div two_ne_zero, ← mul_div_assoc,
      div_le_div_iff₀ (by positivity) (by positivity)]
    exact_mod_cast value
  · cases le

/-- The double of a power of ten. -/
theorem full_powerOfTen {k : Nat} (small : k ≤ 308) :
    ∃ r f, Full (powerOfTen k).toModel.unpack r f ∧ -53 ≤ f ∧
      scaled r f ≤ (10 ^ k * (2 ^ 53 + 1) : Nat) / (2 ^ 53 : Nat) := by
  by_cases table : k ≤ 22
  · have all : ∀ k < 23, atMost (powerOfTen k).toModel.unpack (10 ^ k * (2 ^ 53 + 1))
        (2 ^ 53) = true := by decide +kernel
    exact full_of_atMost (by norm_num) (all k (by omega))
  · have value : scaled (1 <<< 53 * 10 ^ k) (-53 + 0) = (10 ^ k : Nat) := by
      have shift : ((1 <<< 53 : Nat) : ℚ) * 2 ^ (-53 + 0 : Int) = 1 := by
        rw [Nat.shiftLeft_eq]
        norm_num
      rw [scaled, Nat.cast_mul, mul_right_comm, shift, one_mul]
    have bits : 52 ≤ (1 <<< 53 * 10 ^ k).log2 := by
      have least : 2 ^ 52 ≤ 1 <<< 53 * 10 ^ k :=
        Nat.le_trans (by decide) (Nat.le_mul_of_pos_right _ (Nat.pow_pos (by omega)))
      exact (Nat.le_log2 (by omega)).2 least
    have below : 10 ^ k < (2 ^ 54 - 1) * 2 ^ 970 :=
      (pow_le_pow_right₀ (by decide) small).trans_lt (by decide +kernel)
    have slow : (powerOfTen k).toModel =
        Float.Model.pack (UnpackedFloat.ofScientific Format.binary64 1 k) := by
      rw [powerOfTen, Float.ofScientific, dif_neg (by omega)]
      rfl
    have product : UnpackedFloat.ofScientific Format.binary64 1 k =
        roundWithAccuracy Format.binary64 .positive (1 <<< 53 * 10 ^ k) (-53 + 0) .exact := by
      rw [UnpackedFloat.ofScientific, dif_neg (by decide), if_neg (by norm_num; omega),
        if_neg (by norm_num; omega), if_pos (by omega)]
      rfl
    obtain ⟨r, f, full, low, near⟩ :=
      full_product .positive bits (by norm_num) (value.trans_lt (natCast_lt_limit below))
    rw [slow, product]
    refine ⟨r, f, full, low, near.trans_eq ?_⟩
    rw [value]
    push_cast
    ring

/-- A product of doubles below the limit is not infinite. -/
theorem isInf_mul {x y : Float} {m₁ m₂ : Nat} {e₁ e₂ : Int} (left : Full x.toModel.unpack m₁ e₁)
    (right : Full y.toModel.unpack m₂ e₂) (low : -1074 ≤ e₁ + e₂) {a b d : Nat} (positive : 0 < d)
    (first : scaled m₁ e₁ ≤ a) (second : scaled m₂ e₂ ≤ (b : ℚ) / d)
    (below : a * b < (2 ^ 54 - 1) * 2 ^ 970 * d) : (x * y).isInf = false := by
  obtain ⟨⟨s₁, positive₁, eq₁⟩, bits₁⟩ := left
  obtain ⟨⟨s₂, positive₂, eq₂⟩, bits₂⟩ := right
  have bits : 52 ≤ (m₁ * m₂).log2 := by
    have least := ((Nat.log2_eq_iff (by omega)).1 bits₁).1
    rw [Nat.le_log2 (Nat.mul_pos positive₁ positive₂).ne']
    exact least.trans (Nat.le_mul_of_pos_right m₁ positive₂)
  have value : scaled (m₁ * m₂) (e₁ + e₂) = scaled m₁ e₁ * scaled m₂ e₂ := by
    rw [scaled, scaled, scaled, zpow_add₀ two_ne_zero]
    push_cast
    ring
  have under : scaled m₁ e₁ * scaled m₂ e₂ < limit :=
    calc scaled m₁ e₁ * scaled m₂ e₂
        ≤ a * (b / d) := by
          have : 0 ≤ scaled m₂ e₂ := mul_nonneg (Nat.cast_nonneg _) (zpow_nonneg (by norm_num) _)
          exact mul_le_mul first second this (Nat.cast_nonneg a)
      _ = ((a * b : Nat) : ℚ) / d := by rw [Nat.cast_mul, mul_div_assoc]
      _ < limit := by
          rw [div_lt_iff₀ (by exact_mod_cast positive), limit_eq, ← Nat.cast_mul, Nat.cast_lt]
          exact below
  obtain ⟨r, f, full, -, -⟩ := full_product (s₁ * s₂) bits low (value.trans_lt under)
  change (Float.Model.pack (UnpackedFloat.mul Format.binary64 x.toModel.unpack y.toModel.unpack)).unpack.isInf = _
  rw [eq₁, eq₂]
  exact full.isInf

/-- An integer of at most 17 digits times a power of ten is not infinite up to the middle between
the largest double and the one before it. -/
theorem isInf_toFloat_mul {c k : Nat} (nonzero : c ≠ 0) (digits : c ≤ 10 ^ 17) (small : k ≤ 308)
    (below : c * 10 ^ k ≤ (2 ^ 54 - 3) * 2 ^ 970) :
    ((UInt64.ofNat c).toFloat * powerOfTen k).isInf = false := by
  have log : c.log2 ≤ 56 := Nat.lt_succ_iff.1 ((Nat.log2_lt nonzero).2 (by omega))
  obtain ⟨r, f, full, low, near, same⟩ := full_toFloat nonzero (by omega)
  obtain ⟨s, g, power, least, value⟩ := full_powerOfTen small
  rcases Nat.lt_trichotomy k 292 with less | rfl | more
  · have top : (10 ^ 17 + 2 ^ 3) * (10 ^ 291 * (2 ^ 53 + 1)) < (2 ^ 54 - 1) * 2 ^ 970 * 2 ^ 53 := by
      decide +kernel
    have powers : 10 ^ k ≤ 10 ^ 291 := pow_le_pow_right₀ (by decide) (by omega)
    refine isInf_mul full power (by omega) (by norm_num) (half_unit_le (n := 3) (by omega) near) value
      (Nat.lt_of_le_of_lt ?_ top)
    gcongr
  · -- the only power of ten for which an inexact integer comes near the largest double
    have close : atMost (powerOfTen 292).toModel.unpack (10 ^ 292 * (2 ^ 56 + 1)) (2 ^ 56) = true :=
      by decide +kernel
    obtain ⟨s, g, power, least, value⟩ := full_of_atMost (by norm_num) close
    have beyond : (2 ^ 54 - 3) * 2 ^ 970 < 17976931348623157 * 10 ^ 292 := by decide +kernel
    have most : c < 17976931348623157 :=
      Nat.lt_of_mul_lt_mul_right (Nat.lt_of_le_of_lt below beyond)
    have log : c.log2 < 54 := (Nat.log2_lt nonzero).2 (most.trans (by decide))
    have top : 17976931348623157 * (10 ^ 292 * (2 ^ 56 + 1)) < (2 ^ 54 - 1) * 2 ^ 970 * 2 ^ 56 := by
      decide +kernel
    refine isInf_mul full power (by omega) (by norm_num) (half_unit_le (n := 0) (by omega) near) value
      (Nat.lt_of_le_of_lt ?_ top)
    exact Nat.mul_le_mul_right _ most
  · have beyond : (2 ^ 54 - 3) * 2 ^ 970 < 2 ^ 53 * 10 ^ 293 := by decide +kernel
    have powers : 10 ^ 293 ≤ 10 ^ k := pow_le_pow_right₀ (by decide) more
    have within : c < 2 ^ 53 := by
      refine Nat.lt_of_mul_lt_mul_right (Nat.lt_of_le_of_lt ?_ beyond)
      exact (Nat.mul_le_mul_left c powers).trans below
    have top : (2 ^ 54 - 3) * 2 ^ 970 * (2 ^ 53 + 1) < (2 ^ 54 - 1) * 2 ^ 970 * 2 ^ 53 := by
      decide +kernel
    refine isInf_mul full power (by omega) (by norm_num) (same within).le value
      (Nat.lt_of_le_of_lt ?_ top)
    rw [← Nat.mul_assoc]
    exact Nat.mul_le_mul_right _ below

end RackInventory.Rounding
