import Mathlib.Tactic.IntervalCases
import RackInventory.Json.Parser
import RackInventory.Proofs.Json.Range

/-!
# Numbers as they are read back

An integer of 64 bits is read back as itself. A double is written with the fewest digits that belong
to it and no other, but the reader does not always give the nearest double, so what it gives is the
double's second reading.
-/

namespace RackInventory.Json

open Reader

namespace Numeral

/-- A numeral starts with a digit. -/
theorem first_of_numeral {p : Parts} (valid : p.Valid) (rest : Bytes) :
    ∃ d < 10, ∃ bytes, Utf8.encode p.chars ++ rest = digitByte d :: bytes := by
  obtain ⟨d, ds, eq⟩ := List.exists_cons_of_ne_nil valid.filled
  have small := valid.whole d (eq ▸ List.mem_cons_self)
  rw [encode_chars, eq, encode_digitChars_cons small]
  exact ⟨d, small, _, rfl⟩

theorem gives_value {p : Parts} (valid : p.Valid) {negative : Bool} {n : Number}
    (number : p.number negative = some n) {rest : Bytes} (ends : Ends rest) (depth : Nat) :
    (value (depth + 1)).Gives (Utf8.encode (signChars negative ++ p.chars) ++ rest) (.number n) rest := by
  have read : (read negative).Gives (Utf8.encode p.chars ++ rest) n rest := by
    rw [Gives, run_read valid ends, number]
    rfl
  have result := read.map (f := Json.number)
  cases negative with
  | true => exact (gives_peekToken rfl _).bind ((gives_advance 0x2D _).bind result)
  | false =>
    obtain ⟨d, small, bytes, eq⟩ := first_of_numeral valid rest
    change (value (depth + 1)).Gives (Utf8.encode p.chars ++ rest) (.number n) rest
    rw [eq] at result ⊢
    interval_cases d <;> exact (gives_peekToken rfl _).bind result

end Numeral

namespace Number

open Numeral

/-- The numbers that documents can hold: integers of 64 bits, with a sign or without, and finite
doubles. -/
def IsDocument : Number → Prop
  | .integer n => -(Nat.pow 2 63 : Nat) ≤ n ∧ n < (Nat.pow 2 64 : Nat)
  | .float x => (Binary.ofFloat x).isSome

instance : (n : Number) → Decidable n.IsDocument
  | .integer n => inferInstanceAs (Decidable (-(Nat.pow 2 63 : Nat) ≤ n ∧ n < (Nat.pow 2 64 : Nat)))
  | .float x => inferInstanceAs (Decidable ((Binary.ofFloat x).isSome = true))

def reread (n : Number) : Number :=
  match parse (Utf8.encode (printNumber n)) with
  | .ok (.number m) => m
  | _ => n

theorem reread_eq {n m : Number} {p : Parts} (valid : p.Valid) {negative : Bool}
    (written : printNumber n = signChars negative ++ p.chars) (number : p.number negative = some m) :
    n.reread = m := by
  have whole : parse (Utf8.encode (printNumber n)) = .ok (.number m) := by
    have gives := gives_value valid number ends_nil 127
    rw [List.append_nil] at gives
    rw [written]
    exact runWhole_of_gives gives
  rw [reread, whole]

theorem numeral_of_integer {n : Int} (document : (integer n).IsDocument) :
    printNumber (.integer n) = signChars (decide (n < 0)) ++ (integerParts n.natAbs).chars ∧
      (integerParts n.natAbs).number (decide (n < 0)) = some (.integer n) := by
  obtain ⟨low, high⟩ := document
  have pow63 : Nat.pow 2 63 = 9223372036854775808 := rfl
  have pow64 : Nat.pow 2 64 = 18446744073709551616 := rfl
  refine ⟨?_, ?_⟩
  · rw [chars_integerParts, (exists_digitsOf n.natAbs).1]
    exact toList_toString_int n
  · rw [number_integerParts (by omega), integerNumber]
    by_cases negative : n < 0
    · have magnitude : -(n.natAbs : Int) = n := by omega
      have signed : ¬ (n.natAbs = 0 ∨ Nat.pow 2 63 < n.natAbs) := by omega
      rw [decide_eq_true negative, magnitude, if_neg signed]
      rfl
    · have magnitude : (n.natAbs : Int) = n := by omega
      rw [decide_eq_false negative, magnitude]
      rfl

theorem reread_integer {n : Int} (document : (integer n).IsDocument) :
    (integer n).reread = .integer n :=
  reread_eq (valid_integerParts n.natAbs) (numeral_of_integer document).1
    (numeral_of_integer document).2

/-- A number of a document is written as a numeral, which is read as its second reading. -/
theorem exists_numeral {n : Number} (document : n.IsDocument) :
    ∃ negative, ∃ p : Parts, p.Valid ∧ printNumber n = signChars negative ++ p.chars ∧
      p.number negative = some n.reread := by
  cases n with
  | integer n =>
    obtain ⟨written, number⟩ := numeral_of_integer document
    rw [← reread_integer document] at number
    exact ⟨_, _, valid_integerParts n.natAbs, written, number⟩
  | float x =>
    obtain ⟨b, finite⟩ := Option.isSome_iff_exists.1 document
    obtain ⟨y, number⟩ := number_of_double finite
    have written := toList_documentNumber finite
    have valid := valid_decimalParts (Decimal.shortest .even b.significand b.exponent)
    rw [← reread_eq (n := .float x) valid written number] at number
    exact ⟨_, _, valid, written, number⟩

end Number

end RackInventory.Json
