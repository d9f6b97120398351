import RackInventory.Proofs.Quantity.Ladder

/-!
# Quantities in words of 64 bits

The units of a ladder are found by multiplications and divisions that a machine carries out on words.
The same course with every product held against the size of a word, and every divisor against zero,
comes to the same end: no product is too large and no divisor is zero on the way.

Doubles cannot overflow here and are left as they are.
-/

namespace RackInventory

namespace Word

/-- A product that fits in a word. -/
def times? (a b : Nat) : Option Nat := if a * b < 2 ^ 64 then some (a * b) else none

/-- A quotient, unless the divisor is zero. -/
def div? (a b : Nat) : Option Nat := if b = 0 then none else some (a / b)

/-- A remainder, unless the divisor is zero. -/
def mod? (a b : Nat) : Option Nat := if b = 0 then none else some (a % b)

end Word

namespace Quantity

open Word

def climbInWords (base value divisor : Nat) (unit : String) : List String → Option Rung
  | [] => some ⟨divisor, unit, []⟩
  | next :: larger => do
    if base ≤ (← div? value divisor) then
      climbInWords base value (← times? divisor base) next larger
    else return ⟨divisor, unit, next :: larger⟩

def settleInWords (base value : Nat) (r : Rung) : Option Rung :=
  match r.larger with
  | [] => some r
  | next :: larger => do
    if (← mod? value r.divisor) ≠ 0 ∧ base * doubleUnit ≤ rounded value r.divisor then
      return ⟨← times? r.divisor base, next, larger⟩
    else return r

/-- The value in the unit that suits it, in words. -/
def ofWord? (ladder : UnitLadder) (value : Nat) : Option Quantity := do
  let lower ← climbInWords ladder.base value 1 ladder.first ladder.larger
  let r ← settleInWords ladder.base value lower
  if (← mod? value r.divisor) = 0 then
    return ⟨10 * (← div? value r.divisor), r.unit, r.divisor⟩
  else return ⟨shownTenths (rounded value r.divisor), r.unit, r.divisor⟩

variable {l : UnitLadder} {value k : Nat} {r : Rung}

theorem div?_of_isRung (suits : l.Suits) (h : l.IsRung k r) :
    div? value r.divisor = some (value / r.divisor) := if_neg (h.pos suits).ne'

theorem mod?_of_isRung (suits : l.Suits) (h : l.IsRung k r) :
    mod? value r.divisor = some (value % r.divisor) := if_neg (h.pos suits).ne'

theorem times?_of_isRung (suits : l.Suits) (h : l.IsRung k r) (inner : r.larger ≠ []) :
    times? r.divisor l.base = some (r.divisor * l.base) := by
  have top := h.mul_base_le suits inner
  have short := suits.short
  exact if_pos (by omega)

theorem climbInWords_eq (suits : l.Suits) (h : l.IsRung k r) :
    climbInWords l.base value r.divisor r.unit r.larger =
      some (climb l.base value r.divisor r.unit r.larger) := by
  obtain ⟨divisor, unit, larger⟩ := r
  induction larger generalizing k divisor unit with
  | nil => rfl
  | cons next larger ih =>
    have quotient : div? value divisor = some (value / divisor) := div?_of_isRung suits h
    have product := times?_of_isRung suits h (List.cons_ne_nil _ _)
    have above := ih _ _ (h.next rfl)
    dsimp only at quotient product above
    simp only [climbInWords, climb, quotient, product, above, Option.bind_eq_bind, Option.bind_some]
    split <;> rfl

theorem settleInWords_eq (suits : l.Suits) (h : l.IsRung k r) :
    settleInWords l.base value r = some (settle l.base value r) := by
  obtain ⟨divisor, unit, larger⟩ := r
  cases larger with
  | nil => rfl
  | cons next larger =>
    have remainder : mod? value divisor = some (value % divisor) := mod?_of_isRung suits h
    have product := times?_of_isRung suits h (List.cons_ne_nil _ _)
    dsimp only at remainder product
    simp only [settleInWords, settle, remainder, product, Option.bind_eq_bind, Option.bind_some]
    split <;> rfl

/-- In words, the same unit is found and the same tenths are. -/
theorem ofWord?_eq (suits : l.Suits) (fits : value < 2 ^ 64) :
    ofWord? l value = some (ofNat l value) := by
  obtain ⟨j, climbed⟩ : ∃ j, l.Climbed value j (climb l.base value 1 l.first l.larger) :=
    UnitLadder.climb_climbed l.isRung_first (Or.inl rfl) suits
  obtain ⟨k, settled⟩ := UnitLadder.settle_settled suits fits climbed
  have first : climbInWords l.base value 1 l.first l.larger =
      some (climb l.base value 1 l.first l.larger) := climbInWords_eq suits l.isRung_first
  have second : settleInWords l.base value _ = some _ := settleInWords_eq suits climbed.toIsRung
  have quotient : div? value _ = some _ := div?_of_isRung suits settled.toIsRung
  have remainder : mod? value _ = some _ := mod?_of_isRung suits settled.toIsRung
  simp only [ofWord?, ofNat, first, second, quotient, remainder, Option.bind_eq_bind,
    Option.bind_some]
  split <;> rfl

end Quantity

end RackInventory
