import Mathlib.Algebra.BigOperators.Group.List.Basic
import Mathlib.Algebra.GroupWithZero.Nat
import RackInventory.View.Listing

/-!
# Totals in 32 bits

A room shows how many racks its rows state as long as the number fits in 32 bits. Of a larger number it
shows what is left in 32 bits, and a build that checks its sums shows nothing.
-/

namespace RackInventory

def statedIn (rows : List Row) : Nat := (rows.map (·.stated.toNat)).sum

theorem statedIn_cons (row : Row) (rows : List Row) :
    statedIn (row :: rows) = row.stated.toNat + statedIn rows := by
  simp [statedIn]

theorem toNat_foldl_stated (rows : List Row) (n : UInt32) :
    (rows.foldl (fun n row => n + row.stated) n).toNat =
      (n.toNat + statedIn rows) % UInt32.size := by
  induction rows generalizing n with
  | nil => exact (Nat.mod_eq_of_lt n.toNat_lt).symm
  | cons row rows ih =>
    rw [List.foldl_cons, ih, statedIn_cons, UInt32.toNat_add, ← Nat.add_assoc]
    exact Nat.mod_add_mod ..

/-- The first sum that does not fit ends the checked addition, and there is one exactly when the whole
does not fit. -/
theorem foldlM_checkedAdd (rows : List Row) (n : UInt32) :
    rows.foldlM (fun n row => checkedAdd n row.stated) n =
      if n.toNat + statedIn rows < UInt32.size then
        some (rows.foldl (fun n row => n + row.stated) n)
      else none := by
  induction rows generalizing n with
  | nil => exact (if_pos n.toNat_lt).symm
  | cons row rows ih =>
    rw [List.foldlM_cons, List.foldl_cons, statedIn_cons, checkedAdd, ← Nat.add_assoc]
    by_cases fits : n.toNat + row.stated.toNat < UInt32.size
    · have sum : (n + row.stated).toNat = n.toNat + row.stated.toNat := by
        rw [UInt32.toNat_add]
        exact Nat.mod_eq_of_lt fits
      rw [if_pos fits, ← sum]
      exact ih _
    · have never : ¬ n.toNat + row.stated.toNat + statedIn rows < UInt32.size := by omega
      rw [if_neg fits, if_neg never]
      rfl

/-- Whether a room shows a number as it is if it fits in 32 bits, and otherwise what is left of it there,
where checked sums fail. -/
structure Room.Totals (r : Room) (n : Nat) : Prop where
  fits : n < UInt32.size → r.entry.racks = n ∧ r.checkedTotal = some r.entry.total
  wraps : UInt32.size ≤ n → r.entry.racks = n % UInt32.size ∧ r.checkedTotal = none

theorem Room.totals_stated (r : Room) : r.Totals (statedIn r.rows) := by
  have left : r.entry.racks = statedIn r.rows % UInt32.size := by
    rw [RoomEntry.racks, entry, toNat_foldl_stated, UInt32.toNat_zero, Nat.zero_add]
  have checked : r.checkedTotal =
      if statedIn r.rows < UInt32.size then some r.entry.total else none := by
    rw [checkedTotal, foldlM_checkedAdd, UInt32.toNat_zero, Nat.zero_add]
    rfl
  constructor
  · intro fits
    rw [left, checked, if_pos fits]
    exact ⟨Nat.mod_eq_of_lt fits, rfl⟩
  · intro wraps
    rw [left, checked, if_neg (Nat.not_lt.mpr wraps)]
    exact ⟨rfl, rfl⟩

end RackInventory
