import Mathlib.Tactic.SplitIfs
import RackInventory.Json.Printer
import RackInventory.Proofs.Json.Numerals
import RackInventory.Proofs.Url.Ipv6

/-!
# The numerals of numbers

The text of an integer is its digits after a sign. The text of a double is the shortest decimal that
belongs to it, with the point among its digits or with an exponent.
-/

namespace RackInventory.Json

open Reader

namespace Numeral

def digitsOf (n : Nat) : List Nat := (Nat.toDigits 10 n).map fun c => c.toNat - 0x30

theorem exists_digitsOf (n : Nat) : Nat.toDigits 10 n = digitChars (digitsOf n) ∧
    (∀ d ∈ digitsOf n, d < 10) ∧ ofDigits (digitsOf n) = n := by
  obtain ⟨ds, eq, small, value⟩ := Host.toDigits_eq_map (show 1 < 10 by decide) n
  have back : ∀ d < 10, (Nat.digitChar d).toNat - 0x30 = d := by decide
  have same : digitsOf n = ds := by
    rw [digitsOf, eq, List.map_map]
    exact (List.map_congr_left fun d mem => back d (small d mem)).trans (List.map_id ds)
  rw [same]
  exact ⟨eq, small, value⟩

/-- The first digit of a number that is not zero is not zero. -/
theorem digitsOf_ne_zero {n : Nat} (some : n ≠ 0) : ∃ d ds, digitsOf n = d :: ds ∧ d ≠ 0 := by
  induction n using Nat.strongRecOn with
  | ind n ih =>
    have back : ∀ d < 10, (Nat.digitChar d).toNat - 0x30 = d := by decide
    by_cases one : n < 10
    · refine ⟨n, [], ?_, some⟩
      rw [digitsOf, Nat.toDigits_of_lt_base one, List.map_singleton, back n one]
    · obtain ⟨d, ds, eq, first⟩ := ih (n / 10) (by omega) (by omega)
      refine ⟨d, ds ++ [n % 10], ?_, first⟩
      rw [digitsOf] at eq ⊢
      rw [Nat.toDigits_of_base_le (by omega) (by omega), List.map_append, eq, List.map_singleton,
        back _ (Nat.mod_lt n (by omega))]
      rfl

theorem digitsOf_ne_nil (n : Nat) : digitsOf n ≠ [] := by
  rw [digitsOf, Ne, List.map_eq_nil_iff]
  exact Nat.toDigits_ne_nil

def integerParts (n : Nat) : Parts := ⟨digitsOf n, [], none⟩

theorem valid_integerParts (n : Nat) : (integerParts n).Valid where
  whole := (exists_digitsOf n).2.1
  filled := digitsOf_ne_nil n
  leading := by
    intro d e ds eq
    by_cases zero : n = 0
    · subst zero
      cases eq
    · obtain ⟨d', ds', eq', first⟩ := digitsOf_ne_zero zero
      cases eq'.symm.trans eq
      exact first
  fraction := fun _ mem => absurd mem List.not_mem_nil
  power := fun _ _ eq => nomatch eq

theorem chars_integerParts (n : Nat) : (integerParts n).chars = Nat.toDigits 10 n := by
  rw [Parts.chars, (exists_digitsOf n).1]
  exact (List.append_nil _).trans (List.append_nil _)

theorem le_foldl_digits (ds : List Nat) (s : Nat) : s ≤ ds.foldl (fun n d => n * 10 + d) s := by
  induction ds generalizing s with
  | nil => exact Nat.le_refl s
  | cons d ds ih => exact Nat.le_trans (by omega) (ih (s * 10 + d))

/-- Digits whose value fits 64 bits are all kept. -/
theorem foldl_pushInteger {ds : List Nat} {s : Nat}
    (fits : ds.foldl (fun n d => n * 10 + d) s < Nat.pow 2 64) :
    ds.foldl pushInteger ⟨s, 0⟩ = ⟨ds.foldl (fun n d => n * 10 + d) s, 0⟩ := by
  induction ds generalizing s with
  | nil => rfl
  | cons d ds ih =>
    have one : pushInteger ⟨s, 0⟩ d = ⟨s * 10 + d, 0⟩ :=
      if_pos ⟨rfl, Nat.lt_of_le_of_lt (le_foldl_digits ds _) fits⟩
    rw [List.foldl_cons, one]
    exact ih fits

theorem kept_integerParts {n : Nat} (fits : n < Nat.pow 2 64) : (integerParts n).kept = ⟨n, 0⟩ := by
  have value := (exists_digitsOf n).2.2
  rw [← value, ofDigits] at fits
  rw [Parts.kept, integerParts, foldl_pushInteger fits, ← ofDigits, value]

theorem number_integerParts {n : Nat} (fits : n < Nat.pow 2 64) (negative : Bool) :
    (integerParts n).number negative = some (integerNumber negative n) := by
  rw [Parts.number, kept_integerParts fits]
  exact if_pos ⟨rfl, rfl⟩

/-- The numeral of a decimal, in the form that documents show. -/
def decimalParts (d : Decimal) : Parts :=
  let ds := digitsOf d.coefficient
  let point := (ds.length : Int) + d.exponent
  if d.coefficient = 0 then ⟨[0], [0], none⟩
  else if 0 ≤ d.exponent ∧ point ≤ 16 then ⟨ds ++ List.replicate d.exponent.toNat 0, [0], none⟩
  else if -5 < point ∧ point ≤ 16 then
    if 0 < point then ⟨ds.take point.toNat, ds.drop point.toNat, none⟩
    else ⟨[0], List.replicate (-point).toNat 0 ++ ds, none⟩
  else ⟨ds.take 1, ds.drop 1, some (decide (point ≤ 0), digitsOf (point - 1).natAbs)⟩

theorem fractionChars_of_ne_nil {ds : List Nat} (filled : ds ≠ []) :
    Parts.fractionChars ds = '.' :: digitChars ds := by
  cases ds with
  | nil => exact absurd rfl filled
  | cons d ds => rfl

def signChars (negative : Bool) : List Char := if negative then ['-'] else []

/-- An integer is written with a minus sign if it is negative. -/
theorem toList_toString_int (n : Int) :
    (toString n).toList = signChars (decide (n < 0)) ++ digitChars (digitsOf n.natAbs) := by
  rw [← (exists_digitsOf n.natAbs).1]
  cases n with
  | ofNat n =>
    rw [decide_eq_false (by simp)]
    exact Nat.toList_repr
  | negSucc n =>
    rw [decide_eq_true (by omega)]
    change ("-" ++ (n + 1).repr).toList = _
    rw [String.toList_append, Nat.toList_repr]
    rfl

theorem length_digitChars (ds : List Nat) : (digitChars ds).length = ds.length :=
  List.length_map ..

theorem digitChars_append (ds es : List Nat) :
    digitChars (ds ++ es) = digitChars ds ++ digitChars es :=
  List.map_append

theorem digitChars_zeros (n : Nat) : digitChars (List.replicate n 0) = List.replicate n '0' :=
  List.map_replicate

theorem chars_pointed {fraction : List Nat} (filled : fraction ≠ []) (whole : List Nat) :
    (Parts.mk whole fraction none).chars = digitChars whole ++ '.' :: digitChars fraction := by
  rw [Parts.chars, fractionChars_of_ne_nil filled]
  exact List.append_nil _

/-- An exponent with its sign, of a decimal whose point stands behind so many digits. -/
theorem powerChars_point (point : Int) :
    Parts.powerChars (some (decide (point ≤ 0), digitsOf (point - 1).natAbs)) =
      'e' :: ((if 0 < point then ['+'] else []) ++ (toString (point - 1)).toList) := by
  rw [toList_toString_int]
  by_cases above : 0 < point
  · have sign : ¬ point - 1 < 0 := by omega
    simp [Parts.powerChars, signChars, above, sign]
  · have sign : point - 1 < 0 := by omega
    have down : point ≤ 0 := by omega
    simp [Parts.powerChars, signChars, above, sign, down]

theorem chars_decimalParts (d : Decimal) : (decimalParts d).chars = d.pointed := by
  have digits : d.digits = digitChars (digitsOf d.coefficient) := (exists_digitsOf d.coefficient).1
  simp only [Decimal.pointed, decimalParts, Decimal.positional, digits, length_digitChars]
  have filled := digitsOf_ne_nil d.coefficient
  generalize digitsOf d.coefficient = ds at *
  by_cases zero : d.coefficient = 0
  · rw [if_pos zero, if_pos zero]
    rfl
  · simp only [if_neg zero]
    by_cases whole : 0 ≤ d.exponent ∧ (ds.length : Int) + d.exponent ≤ 16
    · rw [if_pos whole, if_pos whole, chars_pointed (List.cons_ne_nil 0 []), digitChars_append,
        digitChars_zeros]
      rfl
    rw [if_neg whole, if_neg whole]
    by_cases places : -5 < (ds.length : Int) + d.exponent ∧ (ds.length : Int) + d.exponent ≤ 16
    · rw [if_pos places, if_pos places, if_neg (show ¬ 0 ≤ d.exponent by omega)]
      split_ifs with before
      · have short : ds.drop ((ds.length : Int) + d.exponent).toNat ≠ [] := by
          rw [Ne, List.drop_eq_nil_iff]
          omega
        rw [chars_pointed short, digitChars, digitChars, List.map_take, List.map_drop]
        rfl
      · rw [chars_pointed (List.append_ne_nil_of_right_ne_nil _ filled), digitChars_append,
          digitChars_zeros]
        rfl
    · rw [if_neg places, if_neg places]
      rcases ds with _ | ⟨a, _ | ⟨b, ds⟩⟩
      · exact absurd rfl filled
      · exact congrArg (a.digitChar :: ·) (powerChars_point _)
      · exact congrArg (a.digitChar :: '.' :: digitChars (b :: ds) ++ ·) (powerChars_point _)

theorem valid_of_first {a : Nat} {ds fraction : List Nat} {power : Option (Bool × List Nat)}
    (first : a = 0 → ds = []) (whole : ∀ d ∈ a :: ds, d < 10) (small : ∀ d ∈ fraction, d < 10)
    (exponent : ∀ down es, power = some (down, es) → es ≠ [] ∧ ∀ d ∈ es, d < 10) :
    (Parts.mk (a :: ds) fraction power).Valid where
  whole := whole
  filled := List.cons_ne_nil a ds
  leading := by
    rintro _ _ _ ⟨_, _⟩ zero
    cases first zero
  fraction := small
  power := exponent

theorem valid_decimalParts (d : Decimal) : (decimalParts d).Valid := by
  have zeros (n : Nat) : ∀ e ∈ List.replicate n 0, e < 10 := fun e mem => by
    rw [List.eq_of_mem_replicate mem]
    omega
  have zero : ∀ e ∈ [0], e < 10 := zeros 1
  have none_ (down : Bool) (es : List Nat) (h : none = some (down, es)) : es ≠ [] ∧ ∀ d ∈ es, d < 10 :=
    nomatch h
  by_cases empty : d.coefficient = 0
  · have parts : decimalParts d = ⟨[0], [0], none⟩ := if_pos empty
    rw [parts]
    exact valid_of_first (fun _ => rfl) zero zero none_
  · obtain ⟨a, ds, eq, first⟩ := digitsOf_ne_zero empty
    have small := (exists_digitsOf d.coefficient).2.1
    have first (es : List Nat) : a = 0 → es = [] := fun h => absurd h first
    simp only [decimalParts, if_neg empty, eq]
    rw [eq] at small
    have front (n : Nat) : ∀ e ∈ a :: ds.take n, e < 10 := fun e mem =>
      small e (List.cons_subset_cons a (List.take_subset n ds) mem)
    split_ifs with whole places before
    · refine valid_of_first (first _) (fun e mem => ?_) zero none_
      rcases List.mem_append.1 (show e ∈ (a :: ds) ++ _ from mem) with mem | mem
      · exact small e mem
      · exact zeros _ e mem
    · obtain ⟨n, point⟩ := Int.eq_succ_of_zero_lt before
      rw [point]
      exact valid_of_first (first _) (front n) (fun e mem => small e (List.mem_of_mem_drop mem)) none_
    · refine valid_of_first (fun _ => rfl) zero (fun e mem => ?_) none_
      rcases List.mem_append.1 mem with mem | mem
      · exact zeros _ e mem
      · exact small e mem
    · refine valid_of_first (first _) (front 0) (fun e mem => small e (List.mem_of_mem_drop mem)) ?_
      rintro _ _ ⟨_, _⟩
      exact ⟨digitsOf_ne_nil _, (exists_digitsOf _).2.1⟩

/-- A double's numeral stands after a minus sign if it has one. -/
theorem toList_documentNumber {x : Float} {b : Binary} (finite : Binary.ofFloat x = some b) :
    (documentNumber x).toList = signChars b.negative ++
      (decimalParts (Decimal.shortest .even b.significand b.exponent)).chars := by
  simp only [documentNumber, finite, chars_decimalParts, withSign, String.toList_ofList]
  cases b.negative <;> rfl

end Numeral

end RackInventory.Json
