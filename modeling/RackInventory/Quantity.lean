import RackInventory.Decimal.Rounding
import RackInventory.Inventory.EquipmentType

/-!
# Quantities for people

A number of bytes or of bits per second is shown in the largest unit in which it is at least one,
with at most one decimal. If rounding to one decimal reaches the next unit, that unit is taken. A
quantity that is a whole number of its unit is shown exactly; any other is divided in double
arithmetic and rounded to the double nearest to the nearest tenth, of which one decimal is shown.
-/

namespace RackInventory

structure UnitLadder where
  base : Nat
  first : String
  larger : List String

def byteUnits : UnitLadder := ⟨1024, "B", ["KB", "MB", "GB", "TB", "PB"]⟩

def bitRateUnits : UnitLadder := ⟨1000, "b/s", ["Kb/s", "Mb/s", "Gb/s", "Tb/s"]⟩

/-- A number of tenths of a unit, and how many of the smallest unit one unit is. -/
structure Quantity where
  tenths : Nat
  unit : String
  divisor : Nat
deriving DecidableEq, Repr

namespace Quantity

/-- A rung of a ladder: a unit, its size, and the larger units. -/
structure Rung where
  divisor : Nat
  unit : String
  larger : List String

/-- Climbs while the value has at least `base` of the unit and there is a larger one. -/
def climb (base value divisor : Nat) (unit : String) : List String → Rung
  | [] => ⟨divisor, unit, []⟩
  | next :: larger =>
    if base ≤ value / divisor then climb base value (divisor * base) next larger
    else ⟨divisor, unit, next :: larger⟩

/-- The quotient in tenths: the value and the quotient are rounded to doubles, then ten times the
quotient is, and the nearest integer to that is taken. -/
def roundedTenths (value divisor : Nat) : Nat :=
  let quotient := nearestDouble (nearestDouble value 1) (divisor * doubleUnit)
  roundHalfUp (nearestDouble (10 * quotient) doubleUnit) doubleUnit

/-- The double nearest to those tenths, as a multiple of 2^-60. -/
def rounded (value divisor : Nat) : Nat := nearestDouble (roundedTenths value divisor) 10

def shownTenths (x : Nat) : Nat := roundHalfEven (10 * x) doubleUnit

/-- Goes up one rung more when rounding reaches the next unit. -/
def settle (base value : Nat) (r : Rung) : Rung :=
  match r.larger with
  | [] => r
  | next :: larger =>
    if value % r.divisor ≠ 0 ∧ base * doubleUnit ≤ rounded value r.divisor then
      ⟨r.divisor * base, next, larger⟩
    else r

def ofNat (ladder : UnitLadder) (value : Nat) : Quantity :=
  let r := settle ladder.base value (climb ladder.base value 1 ladder.first ladder.larger)
  let tenths :=
    if value % r.divisor = 0 then 10 * (value / r.divisor)
    else shownTenths (rounded value r.divisor)
  ⟨tenths, r.unit, r.divisor⟩

/-- The number, without a decimal when it is whole. -/
def number (q : Quantity) : String :=
  if q.tenths % 10 = 0 then toString (q.tenths / 10)
  else toString (q.tenths / 10) ++ "." ++ toString (q.tenths % 10)

def text (q : Quantity) : String := q.number ++ " " ++ q.unit

end Quantity

/-- A number of bytes for people. -/
def bytesText (n : UInt64) : String := (Quantity.ofNat byteUnits n.toNat).text

/-- A number of bits per second for people. -/
def bitRateText (n : UInt64) : String := (Quantity.ofNat bitRateUnits n.toNat).text

/-- An amount of memory or storage for people. -/
def Size.text : Size → String
  | .bytes n => bytesText n
  | .literal s => s

end RackInventory
