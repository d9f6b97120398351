import RackInventory.Proofs.Decimal.Shortest
import RackInventory.Proofs.Json.Digits

/-!
# Written doubles are in range

A numeral is out of range if its digits times its power of ten are an infinity in the arithmetic of
doubles. No numeral that is written for a finite double is. Below the largest double the exact
product stays one and a half units of the last place under 2^1024, infinity begins half a unit under
it, and the rounding of the digits and of the power adds less than the unit between.
-/

namespace RackInventory.Json.Numeral

/-- Digits of a fraction whose value fits 64 bits are all kept. -/
theorem pushFraction_eq {ds : List Nat} {s : Scaled}
    (fits : ds.foldl (fun n d => n * 10 + d) s.significand < Nat.pow 2 64) :
    pushFraction s ds =
      ⟨ds.foldl (fun n d => n * 10 + d) s.significand, s.exponent - ds.length⟩ := by
  induction ds generalizing s with
  | nil => simp [pushFraction]
  | cons d ds ih =>
    have first : s.significand * 10 + d < Nat.pow 2 64 :=
      Nat.lt_of_le_of_lt (le_foldl_digits ds _) fits
    rw [pushFraction, if_pos first, ih fits]
    simp only [List.foldl_cons, List.length_cons, Scaled.mk.injEq, true_and]
    push_cast
    omega

/-- The digits of a numeral are all kept if they fit 64 bits. -/
theorem kept_all {whole fraction : List Nat} {power : Option (Bool × List Nat)}
    (fits : ofDigits (whole ++ fraction) < Nat.pow 2 64) :
    pushFraction (Parts.mk whole fraction power).kept fraction =
      ⟨ofDigits (whole ++ fraction), -fraction.length⟩ := by
  rw [ofDigits, List.foldl_append] at fits
  have front := Nat.lt_of_le_of_lt (le_foldl_digits fraction _) fits
  rw [Parts.kept, foldl_pushInteger front, pushFraction_eq fits, ofDigits, List.foldl_append,
    zero_sub]

/-- A division by a power of ten is always in range. -/
theorem scale_of_neg (x : Float) {e : Int} (below : e < 0) (fuel : Nat) :
    ∃ y, scale x e fuel = some y := by
  induction fuel generalizing x e with
  | zero => exact ⟨x, rfl⟩
  | succ fuel ih =>
    have down : ¬ 0 ≤ e := by omega
    rw [scale, if_neg down, if_neg down]
    split_ifs with near zero
    · exact ⟨_, rfl⟩
    · exact ⟨_, rfl⟩
    · exact ih _ (by omega)

theorem toFloat?_of_neg (negative : Bool) {s : Scaled} (below : s.exponent < 0) :
    ∃ y, s.toFloat? negative = some y := by
  obtain ⟨y, eq⟩ := scale_of_neg (UInt64.ofNat s.significand).toFloat below 4
  exact ⟨_, by rw [Scaled.toFloat?, eq]; rfl⟩

theorem toFloat?_of_isInf (negative : Bool) {c k : Nat} (small : k ≤ 308)
    (finite : ((UInt64.ofNat c).toFloat * powerOfTen k).isInf = false) :
    ∃ y, Scaled.toFloat? negative ⟨c, k⟩ = some y := by
  have product : scale (UInt64.ofNat c).toFloat k 4 =
      some ((UInt64.ofNat c).toFloat * powerOfTen k) := by
    rw [scale, if_pos (by omega), if_pos (by omega), Int.natAbs_natCast]
    simp only [finite]
    rfl
  exact ⟨_, by rw [Scaled.toFloat?, product]; rfl⟩

/-- The parts of a finite double. -/
theorem bounds_of_ofFloat {x : Float} {b : Binary} (finite : Binary.ofFloat x = some b) :
    b.significand < 2 ^ 53 ∧ b.exponent ≤ 971 := by
  have pow : Nat.pow 2 52 = 2 ^ 52 := rfl
  rw [Binary.ofFloat, Binary.ofBits, pow] at finite
  split_ifs at finite with infinite subnormal <;> cases finite
  · exact ⟨(Nat.mod_lt _ (by decide)).trans (by decide), (by decide : (-1074 : Int) ≤ 971)⟩
  · dsimp only
    omega

/-- Below the largest double, a decimal with an exponent above zero is at least one and a half units
of the last place under 2^1024. -/
theorem shortest_below {m : Nat} {q : Int} (bits : m < 2 ^ 53) (high : q ≤ 971)
    (other : ¬ (m = 2 ^ 53 - 1 ∧ q = 971)) {c k : Nat}
    (decimal : Decimal.shortest .even m q = ⟨c, k⟩) (above : 0 < k) :
    c * 10 ^ k ≤ (2 ^ 54 - 3) * 2 ^ 970 := by
  have inside := (Decimal.shortest_spec .even bits q).2
  rw [decimal] at inside
  have step (j : Int) : (2 : ℚ) ^ (968 + j) = 2 ^ (968 : Int) * 2 ^ j := zpow_add₀ two_ne_zero _ _
  have positive : (0 : ℚ) < 2 ^ (968 : Int) := zpow_pos two_pos _
  have last : (4 * m + 2 : ℚ) * 2 ^ (q - 2) ≤ (2 ^ 54 - 3) * (2 ^ (968 : Int) * 2 ^ (2 : Int)) := by
    rcases Int.lt_or_eq_of_le high with less | rfl
    · have power : (2 : ℚ) ^ (q - 2) ≤ 2 ^ (968 : Int) := zpow_le_zpow_right₀ one_le_two (by omega)
      have factor : (4 * m + 2 : ℚ) ≤ 2 ^ 55 := by exact_mod_cast (by omega : 4 * m + 2 ≤ 2 ^ 55)
      generalize (2 : ℚ) ^ (968 : Int) = u at *
      have := mul_le_mul factor power (zpow_nonneg (by norm_num) _) (by norm_num)
      linarith
    · have factor : (4 * m + 2 : ℚ) ≤ 2 ^ 55 - 6 := by
        have : 4 * m + 2 + 6 ≤ 2 ^ 55 := by omega
        have : (4 * m + 2 + 6 : ℚ) ≤ 2 ^ 55 := by exact_mod_cast this
        linarith
      rw [show (971 - 2 : Int) = 968 + 1 from rfl, step 1]
      generalize (2 : ℚ) ^ (968 : Int) = u at *
      have := mul_le_mul_of_nonneg_right factor (show 0 ≤ u * 2 ^ (1 : Int) by linarith)
      linarith
  have under := (inside (Int.natCast_pos.2 above)).trans last
  have factor : ((2 ^ 54 - 3 : Nat) : ℚ) = 2 ^ 54 - 3 := by norm_num
  rw [← step 2, ← factor, show (968 + 2 : Int) = (970 : Nat) from rfl, zpow_natCast,
    zpow_natCast] at under
  exact_mod_cast under

/-- The digits and the exponent of a written double. -/
theorem toFloat?_shortest {x : Float} {b : Binary} (finite : Binary.ofFloat x = some b)
    {c k : Nat} (nonzero : c ≠ 0)
    (decimal : Decimal.shortest .even b.significand b.exponent = ⟨c, k⟩) :
    k ≤ 308 ∧ ∃ y, Scaled.toFloat? b.negative ⟨c, k⟩ = some y := by
  obtain ⟨bits, high⟩ := bounds_of_ofFloat finite
  by_cases largest : b.significand = 2 ^ 53 - 1 ∧ b.exponent = 971
  · have known : Decimal.shortest .even (2 ^ 53 - 1) 971 = ⟨17976931348623157, (292 : Nat)⟩ := by
      decide +kernel
    rw [largest.1, largest.2, known] at decimal
    cases decimal
    exact ⟨by decide, toFloat?_of_isInf b.negative (by decide) (by decide +kernel)⟩
  · have digits := (Decimal.shortest_spec .even bits b.exponent).1
    rw [decimal] at digits
    have below : c * 10 ^ k ≤ (2 ^ 54 - 3) * 2 ^ 970 := by
      rcases Nat.eq_zero_or_pos k with rfl | above
      · exact (Nat.mul_one c).le.trans (digits.trans (by decide +kernel))
      · exact shortest_below bits high largest decimal above
    have small : k < 309 := by
      have beyond : (2 ^ 54 - 3) * 2 ^ 970 < 10 ^ 309 := by decide +kernel
      have power := (Nat.le_mul_of_pos_left (10 ^ k) (Nat.pos_of_ne_zero nonzero)).trans below
      exact (pow_lt_pow_iff_right₀ (by decide)).1 (power.trans_lt beyond)
    have least : k ≤ 308 := Nat.le_of_lt_succ small
    exact ⟨least, toFloat?_of_isInf b.negative least
      (Rounding.isInf_toFloat_mul nonzero digits least below)⟩

theorem ofDigits_lt {ds : List Nat} (small : ∀ d ∈ ds, d < 10) : ofDigits ds < 10 ^ ds.length := by
  have below := Host.foldl_digits_lt small 0
  rwa [Nat.zero_add, Nat.one_mul] at below

theorem ofDigits_zeros (n : Nat) (ds : List Nat) :
    ofDigits (List.replicate n 0 ++ ds) = ofDigits ds := by
  induction n with
  | zero => rfl
  | succ n ih => exact ih

/-- A numeral with a point and no exponent is in range. -/
theorem number_pointed {whole fraction : List Nat} (filled : fraction ≠ [])
    (fits : ofDigits (whole ++ fraction) < Nat.pow 2 64) (negative : Bool) :
    ∃ y, (Parts.mk whole fraction none).number negative = some (.float y) := by
  have length := List.length_pos_iff.2 filled
  obtain ⟨y, eq⟩ := toFloat?_of_neg negative
    (s := ⟨ofDigits (whole ++ fraction), -fraction.length⟩) (by dsimp only; omega)
  refine ⟨y, ?_⟩
  change (if fraction = [] ∧ _ then _ else _) = _
  rw [if_neg (fun both => filled both.1), kept_all fits, eq]
  rfl

/-- A numeral with an exponent is in range if its digits times its power of ten are. -/
theorem number_power {whole fraction : List Nat} (fits : ofDigits (whole ++ fraction) < Nat.pow 2 64)
    {down : Bool} {n : Nat} (bounded : down = false → n < Nat.pow 2 31) {e : Int}
    (exponent : (if down then -(fraction.length : Int) - n else -fraction.length + n) = e)
    {negative : Bool}
    (range : ∃ y, Scaled.toFloat? negative ⟨ofDigits (whole ++ fraction), e⟩ = some y) :
    ∃ y, (Parts.mk whole fraction (some (down, digitsOf n))).number negative = some (.float y) := by
  have parts : (Parts.mk whole fraction (some (down, digitsOf n))).number negative =
      (withExponent negative ⟨ofDigits (whole ++ fraction), -fraction.length⟩ down n).map .float := by
    change (withExponent _ (pushFraction _ _) _ (ofDigits (digitsOf n))).map _ = _
    rw [kept_all fits, (exists_digitsOf n).2.2]
  have given : ∃ y, withExponent negative ⟨ofDigits (whole ++ fraction), -fraction.length⟩ down n =
      some y := by
    subst exponent
    rw [withExponent]
    by_cases long : Nat.pow 2 31 ≤ n
    · have falls : down = true := by
        by_contra rises
        exact absurd (bounded (Bool.eq_false_iff.2 rises)) (Nat.not_lt.2 long)
      subst falls
      exact ⟨_, (if_pos long).trans (if_neg (fun both => Bool.false_ne_true both.2))⟩
    · rw [if_neg long]
      exact range
  obtain ⟨y, eq⟩ := given
  exact ⟨y, by rw [parts, eq]; rfl⟩

/-- At most 16 digits, zeros among them, before the point. -/
theorem number_whole {ds : List Nat} (small : ∀ d ∈ ds, d < 10) {n : Nat} (short : ds.length + n ≤ 16)
    (negative : Bool) :
    ∃ y, (Parts.mk (ds ++ List.replicate n 0) [0] none).number negative = some (.float y) := by
  have zeros (n : Nat) : ∀ e ∈ List.replicate n 0, e < 10 := fun e mem => by
    rw [List.eq_of_mem_replicate mem]
    decide
  have all : ∀ e ∈ ds ++ List.replicate n 0 ++ [0], e < 10 := by
    simp only [List.forall_mem_append]
    exact ⟨⟨small, zeros n⟩, zeros 1⟩
  have length : (ds ++ List.replicate n 0 ++ [0]).length ≤ 17 := by
    simp only [List.length_append, List.length_replicate, List.length_singleton]
    omega
  refine number_pointed (List.cons_ne_nil 0 []) ((ofDigits_lt all).trans ?_) negative
  exact (Nat.pow_le_pow_right (by decide) length).trans_lt (by decide)

/-- One digit before the point, and an exponent that says where the point belongs. -/
theorem number_exponential {ds : List Nat} (filled : ds ≠ []) (few : ds.length ≤ 18)
    (fits : ofDigits ds < Nat.pow 2 64) {e : Int} {negative : Bool}
    (up : ∀ k : Nat, e = k →
      k ≤ 308 ∧ ∃ y, Scaled.toFloat? negative ⟨ofDigits ds, k⟩ = some y) :
    ∃ y, (Parts.mk (ds.take 1) (ds.drop 1)
      (some (decide ((ds.length : Int) + e ≤ 0), digitsOf ((ds.length : Int) + e - 1).natAbs))).number
        negative = some (.float y) := by
  have length := List.length_pos_iff.2 filled
  have join : ds.take 1 ++ ds.drop 1 = ds := List.take_append_drop 1 ds
  refine number_power (e := e) (by rwa [join]) ?_ ?_ ?_
  · intro above
    have pow : Nat.pow 2 31 = 2147483648 := rfl
    have point := of_decide_eq_false above
    rcases Int.lt_or_le e 0 with below | least
    · omega
    · obtain ⟨k, eq⟩ := Int.eq_ofNat_of_zero_le least
      have := (up k eq).1
      omega
  · rw [List.length_drop]
    simp only [decide_eq_true_eq]
    split_ifs <;> omega
  · rw [join]
    rcases Int.lt_or_le e 0 with below | least
    · exact toFloat?_of_neg negative below
    · obtain ⟨k, eq⟩ := Int.eq_ofNat_of_zero_le least
      rw [eq]
      exact (up k eq).2

/-- A decimal of at most 17 digits is read as its digits times its power of ten. -/
theorem number_decimalParts {d : Decimal} (digits : d.coefficient ≤ 10 ^ 17) (negative : Bool)
    (up : d.coefficient ≠ 0 → ∀ k : Nat, d.exponent = k →
      k ≤ 308 ∧ ∃ y, Scaled.toFloat? negative ⟨d.coefficient, k⟩ = some y) :
    ∃ y, (decimalParts d).number negative = some (.float y) := by
  have fits : d.coefficient < Nat.pow 2 64 := digits.trans_lt (by decide)
  obtain ⟨-, small, value⟩ := exists_digitsOf d.coefficient
  have filled := digitsOf_ne_nil d.coefficient
  have few : (digitsOf d.coefficient).length ≤ 18 := by
    rw [digitsOf, List.length_map, Nat.length_toDigits_le_iff (by decide) (by decide)]
    exact digits.trans_lt (by decide)
  simp only [decimalParts]
  generalize digitsOf d.coefficient = ds at *
  rw [← value] at fits
  split_ifs with zero whole places before
  · exact number_pointed (List.cons_ne_nil 0 []) (by decide) negative
  · exact number_whole small (by omega) negative
  · refine number_pointed ?_ ?_ negative
    · rw [Ne, List.drop_eq_nil_iff]
      omega
    · rwa [List.take_append_drop]
  · refine number_pointed (List.append_ne_nil_of_right_ne_nil _ filled) ?_ negative
    rw [← List.append_assoc]
    change ofDigits (List.replicate _ 0 ++ ds) < _
    rwa [ofDigits_zeros]
  · exact number_exponential filled few fits (by rw [value]; exact up zero)

theorem number_of_double {x : Float} {b : Binary} (finite : Binary.ofFloat x = some b) :
    ∃ y, (decimalParts (Decimal.shortest .even b.significand b.exponent)).number b.negative =
      some (.float y) := by
  obtain ⟨bits, -⟩ := bounds_of_ofFloat finite
  refine number_decimalParts (Decimal.shortest_spec .even bits b.exponent).1 b.negative ?_
  intro nonzero k exponent
  exact toFloat?_shortest finite nonzero (by rw [← exponent])

end RackInventory.Json.Numeral
