import Mathlib.Algebra.Order.Field.Basic
import Mathlib.Data.Rat.Cast.Order
import Mathlib.Tactic.FieldSimp
import RackInventory.Proofs.Quantity.Words

/-!
# What quantities are read as

The text of a quantity is a number with at most one decimal, which is not zero, and the name of a
unit. It can be read in one way only, so it stands for one amount. That amount is the value where the
value is a whole number of the unit, and near it elsewhere, and it never gets smaller when the value
gets larger.

Nothing is said about how far values from 2^50 bytes or 10^15 bits per second on are rounded.
-/

namespace RackInventory

open Quantity

namespace UnitLadder

/-- A text shows a number of tenths of a unit, without decimals or with one that is not zero. -/
def Shows (l : UnitLadder) (text : String) (tenths k : Nat) : Prop :=
  ∃ whole decimal unit, decimal < 10 ∧ tenths = 10 * whole + decimal ∧ l.units[k]? = some unit ∧
    text = (if decimal = 0 then toString whole else toString whole ++ "." ++ toString decimal) ++
      " " ++ unit

def amount (l : UnitLadder) (tenths k : Nat) : ℚ := (tenths : ℚ) / 10 * (l.base : ℚ) ^ k

/-- Whether units have different names, which are single words. -/
structure Named (l : UnitLadder) : Prop where
  apart : l.units.Nodup
  words : ∀ unit ∈ l.units, ' ' ∉ unit.toList

theorem byteUnits_named : byteUnits.Named := ⟨by decide, by decide⟩

theorem bitRateUnits_named : bitRateUnits.Named := ⟨by decide, by decide⟩

theorem not_mem_toString {c : Char} (other : c.isDigit = false) (n : Nat) :
    c ∉ (toString n).toList := by
  intro mem
  rw [Nat.toString_eq_repr, Nat.toList_repr] at mem
  rw [Nat.isDigit_of_mem_toDigits (by decide) (by decide) mem] at other
  cases other

theorem toString_inj {m n : Nat} (same : (toString m).toList = (toString n).toList) : m = n := by
  rw [Nat.toString_eq_repr, Nat.toString_eq_repr, Nat.toList_repr, Nat.toList_repr] at same
  have read (k : Nat) : Nat.ofDigitChars 10 (Nat.toDigits 10 k) 0 = k :=
    Nat.ofDigitChars_toDigits (by decide) (by decide)
  rw [← read m, same, read n]

/-- The characters of a number with at most one decimal. -/
def numeral (whole decimal : Nat) : List Char :=
  if decimal = 0 then (toString whole).toList
  else (toString whole).toList ++ '.' :: (toString decimal).toList

theorem blank_not_mem_numeral (whole decimal : Nat) : ' ' ∉ numeral whole decimal := by
  unfold numeral
  split
  · exact not_mem_toString rfl whole
  · intro mem
    rcases List.mem_append.mp mem with mem | mem
    · exact not_mem_toString rfl whole mem
    · exact not_mem_toString rfl decimal ((List.mem_cons.mp mem).resolve_left (by decide))

theorem numeral_inj {whole decimal whole' decimal' : Nat}
    (same : numeral whole decimal = numeral whole' decimal') : whole = whole' ∧ decimal = decimal' := by
  have point (n : Nat) : '.' ∉ (toString n).toList := not_mem_toString rfl n
  unfold numeral at same
  split at same <;> split at same
  · next zero zero' => exact ⟨toString_inj same, zero.trans zero'.symm⟩
  · exact absurd (same ▸ List.mem_append_right _ List.mem_cons_self) (point whole)
  · exact absurd (same ▸ List.mem_append_right _ List.mem_cons_self) (point whole')
  · obtain ⟨front, -, back⟩ := (List.append_cons_inj_of_notMem (point _) (point _)).mp same
    exact ⟨toString_inj front, toString_inj back⟩

variable {l : UnitLadder} {text : String} {tenths k tenths' k' value : Nat}

/-- A text shows at most one quantity. -/
theorem Shows.unique (named : l.Named) (h : l.Shows text tenths k) (h' : l.Shows text tenths' k') :
    tenths = tenths' ∧ k = k' := by
  obtain ⟨whole, decimal, unit, -, rfl, place, rfl⟩ := h
  obtain ⟨whole', decimal', unit', -, rfl, place', same⟩ := h'
  have chars (w d : Nat) (u : String) :
      ((if d = 0 then toString w else toString w ++ "." ++ toString d) ++ " " ++ u).toList =
        numeral w d ++ ' ' :: u.toList := by
    unfold numeral
    split <;> simp
  have lists := congrArg String.toList same
  rw [chars, chars] at lists
  obtain ⟨number, -, name⟩ := (List.append_cons_inj_of_notMem (blank_not_mem_numeral _ _)
    (named.words unit (List.mem_of_getElem? place))).mp lists
  obtain ⟨rfl, rfl⟩ := numeral_inj number
  rw [String.toList_inj.mp name] at place
  obtain ⟨inside, -⟩ := List.getElem?_eq_some_iff.mp place'
  exact ⟨rfl, ((List.getElem?_inj inside named.apart).mp (place'.trans place.symm)).symm⟩

theorem shows_text {q : Quantity} (place : l.units[k]? = some q.unit) :
    l.Shows q.text q.tenths k := by
  refine ⟨q.tenths / 10, q.tenths % 10, q.unit, Nat.mod_lt _ (by decide), by omega, place, ?_⟩
  rfl

/-- What is shown of a value: nothing only for zero, one or more otherwise, less than the next unit
if there is one, the value itself where it is a whole number of the unit, and below a limit no more
than a twentieth of the unit away. -/
structure Tells (l : UnitLadder) (limit value tenths k : Nat) : Prop where
  zero : tenths = 0 ↔ value = 0
  least : value ≠ 0 → 10 ≤ tenths
  most : k + 1 < l.units.length → tenths < 10 * l.base
  exact : l.base ^ k ∣ value → l.amount tenths k = value
  near : value < limit → |l.amount tenths k - value| ≤ (l.base : ℚ) ^ k / 20

/-- Whether values below a limit are rounded to the nearest tenth of the unit they are shown in. -/
def Accurate (l : UnitLadder) (limit : Nat) : Prop :=
  ∀ value k r, value < limit → l.Settled value k r →
    Nearest (roundedTenths value r.divisor) r.divisor value

theorem accurate_byteUnits : byteUnits.Accurate (2 ^ 50) := by
  intro value k r below settled
  have length := settled.length
  have power : r.divisor = 2 ^ (10 * k) := by
    rw [settled.divisor, Nat.pow_mul]
    rfl
  rw [power]
  refine nearest_of_power ?_ below
  change k + _ = 5 at length
  omega

theorem accurate_bitRateUnits : bitRateUnits.Accurate (10 ^ 15) := by
  intro value k r below settled
  have fits : value < 2 ^ 64 := below.trans (by decide)
  by_cases whole : r.divisor ∣ value
  · have tenths := settled.roundedTenths_of_dvd bitRateUnits_suits fits whole
    have quotient := Nat.div_mul_cancel whole
    rw [tenths, Nearest, Nat.mul_assoc, quotient]
    omega
  · have some : value ≠ 0 := by
      rintro rfl
      exact whole (dvd_zero _)
    have twenty : 20 ∣ r.divisor := by
      cases k with
      | zero =>
        rw [settled.divisor, Nat.pow_zero] at whole
        exact absurd (one_dvd value) whole
      | succ k =>
        rw [settled.divisor, Nat.pow_succ]
        exact Dvd.dvd.mul_left (by decide) _
    exact nearest_of_twenty (settled.pos bitRateUnits_suits) twenty
      (settled.least bitRateUnits_suits fits some).1 (below.le.trans (by decide))

/-- What a text stands for when it shows rounded tenths. -/
theorem Settled.tells {limit : Nat} {r : Rung} (suits : l.Suits) (accurate : l.Accurate limit)
    (fits : value < 2 ^ 64) (h : l.Settled value k r) :
    l.Tells limit value (roundedTenths value r.divisor) k := by
  have divisor : (r.divisor : ℚ) = (l.base : ℚ) ^ k := by rw [h.divisor, Nat.cast_pow]
  refine ⟨h.eq_zero_iff suits fits, fun some => (h.least suits fits some).2, ?_, ?_, ?_⟩
  · intro further
    refine h.most suits fits fun last => ?_
    rw [h.last_iff] at last
    rw [units, List.length_cons] at further
    omega
  · intro whole
    rw [← h.divisor] at whole
    rw [amount, ← divisor, h.roundedTenths_of_dvd suits fits whole]
    have quotient : ((value / r.divisor : Nat) : ℚ) * r.divisor = value := by
      rw [← Nat.cast_mul, Nat.div_mul_cancel whole]
    rw [← quotient]
    push_cast
    ring
  · intro below
    obtain ⟨above, under⟩ := accurate value k r below h
    have most : 2 * ((roundedTenths value r.divisor : ℚ) * r.divisor) ≤ 20 * value + r.divisor := by
      exact_mod_cast above
    have least : 20 * (value : ℚ) ≤
        2 * ((roundedTenths value r.divisor : ℚ) * r.divisor) + r.divisor := by
      exact_mod_cast under
    rw [amount, ← divisor, abs_le]
    constructor <;> linarith

/-- A text shows a quantity, and whichever it shows tells a value. -/
structure Told (l : UnitLadder) (limit value : Nat) (text : String) : Prop where
  shown : ∃ tenths k, l.Shows text tenths k
  tells : ∀ tenths k, l.Shows text tenths k → l.Tells limit value tenths k

theorem told_text {limit : Nat} (suits : l.Suits) (named : l.Named) (accurate : l.Accurate limit)
    (fits : value < 2 ^ 64) : l.Told limit value (ofNat l value).text := by
  obtain ⟨j, r, settled, eq⟩ := ofNat_settled suits fits
  have shown : l.Shows (ofNat l value).text (roundedTenths value r.divisor) j := by
    rw [eq]
    exact shows_text settled.unit
  refine ⟨⟨_, _, shown⟩, fun tenths k shows => ?_⟩
  obtain ⟨rfl, rfl⟩ := shown.unique named shows
  exact settled.tells suits accurate fits

/-- Two texts show quantities, and whichever they show, the first is no larger than the second. -/
structure InOrder (l : UnitLadder) (text text' : String) : Prop where
  shown : ∃ tenths k, l.Shows text tenths k
  shown' : ∃ tenths k, l.Shows text' tenths k
  le : ∀ tenths k tenths' k', l.Shows text tenths k → l.Shows text' tenths' k' →
    l.amount tenths k ≤ l.amount tenths' k'

theorem inOrder_text (suits : l.Suits) (named : l.Named) (fits : value' < 2 ^ 64)
    (le : value ≤ value') : l.InOrder (ofNat l value).text (ofNat l value').text := by
  obtain ⟨j, r, settled, eq⟩ := ofNat_settled suits (le.trans_lt fits)
  obtain ⟨j', r', settled', eq'⟩ := ofNat_settled suits fits
  rw [eq, eq']
  have shown := shows_text (q := ⟨roundedTenths value r.divisor, r.unit, r.divisor⟩) settled.unit
  have shown' := shows_text (q := ⟨roundedTenths value' r'.divisor, r'.unit, r'.divisor⟩)
    settled'.unit
  refine ⟨⟨_, _, shown⟩, ⟨_, _, shown'⟩, fun tenths k tenths' k' shows shows' => ?_⟩
  obtain ⟨rfl, rfl⟩ := shown.unique named shows
  obtain ⟨rfl, rfl⟩ := shown'.unique named shows'
  have tenths : (roundedTenths value r.divisor : ℚ) * r.divisor ≤
      (roundedTenths value' r'.divisor : ℚ) * r'.divisor := by
    exact_mod_cast settled.roundedTenths_mul_le suits (le.trans_lt fits) fits settled' le
  rw [settled.divisor, settled'.divisor, Nat.cast_pow, Nat.cast_pow] at tenths
  rw [settled.divisor, settled'.divisor, amount, amount, div_mul_eq_mul_div, div_mul_eq_mul_div]
  exact div_le_div_of_nonneg_right tenths (by norm_num)

end UnitLadder

/-- Amounts of bytes and rates of bits per second of 64 bits are computed in words without overflow or
a division by zero. Their texts are read in one way each: as zero for zero only, as one or more of a
unit and less than the next one otherwise, exactly where they are a whole number of the unit, and
elsewhere, below 2^50 bytes and 10^15 bits per second, to the nearest tenth. -/
theorem quantities_told (n : UInt64) :
    ((ofWord? byteUnits n.toNat).map Quantity.text = some (bytesText n) ∧
      byteUnits.Told (2 ^ 50) n.toNat (bytesText n)) ∧
    (ofWord? bitRateUnits n.toNat).map Quantity.text = some (bitRateText n) ∧
      bitRateUnits.Told (10 ^ 15) n.toNat (bitRateText n) := by
  have fits : n.toNat < 2 ^ 64 := n.toNat_lt
  refine ⟨⟨?_, ?_⟩, ?_, ?_⟩
  · rw [ofWord?_eq UnitLadder.byteUnits_suits fits]
    rfl
  · exact UnitLadder.told_text UnitLadder.byteUnits_suits UnitLadder.byteUnits_named
      UnitLadder.accurate_byteUnits fits
  · rw [ofWord?_eq UnitLadder.bitRateUnits_suits fits]
    rfl
  · exact UnitLadder.told_text UnitLadder.bitRateUnits_suits UnitLadder.bitRateUnits_named
      UnitLadder.accurate_bitRateUnits fits

/-- The text of a larger quantity is read as no smaller an amount, whatever the units of the two are
and whether or not they were rounded. -/
theorem quantities_in_order {a b : UInt64} (le : a ≤ b) :
    byteUnits.InOrder (bytesText a) (bytesText b) ∧
      bitRateUnits.InOrder (bitRateText a) (bitRateText b) := by
  have values : a.toNat ≤ b.toNat := UInt64.le_iff_toNat_le.mp le
  have fits : b.toNat < 2 ^ 64 := b.toNat_lt
  exact ⟨UnitLadder.inOrder_text UnitLadder.byteUnits_suits UnitLadder.byteUnits_named fits values,
    UnitLadder.inOrder_text UnitLadder.bitRateUnits_suits UnitLadder.bitRateUnits_named fits values⟩

/-- Just below a whole number of the next unit, and there. -/
theorem promoted_in_order : bytesText 1048575 = "1 MB" ∧ bytesText 1048576 = "1 MB" ∧
    byteUnits.InOrder "1 MB" "1 MB" ∧ bitRateText 999949 = "999.9 Kb/s" ∧
    bitRateText 999950 = "1 Mb/s" ∧ bitRateUnits.InOrder "999.9 Kb/s" "1 Mb/s" := by
  have below : bytesText 1048575 = "1 MB" := by decide +kernel
  have there : bytesText 1048576 = "1 MB" := by decide +kernel
  have slow : bitRateText 999949 = "999.9 Kb/s" := by decide +kernel
  have fast : bitRateText 999950 = "1 Mb/s" := by decide +kernel
  have bytes := (quantities_in_order (a := 1048575) (b := 1048576) (by decide)).1
  have rates := (quantities_in_order (a := 999949) (b := 999950) (by decide)).2
  rw [below, there] at bytes
  rw [slow, fast] at rates
  exact ⟨below, there, bytes, slow, fast, rates⟩

end RackInventory
