import RackInventory.Decimal.Binary

/-!
# The fewest digits that read back

Among the decimals inside the interval of reals that round to a double, the shortest are chosen,
and among those the nearest to the double. The ends of the interval belong to it when the integer
part m of the double is even. The two candidates with n digits are the neighbours of the double on
the grid of that many digits; if any point of the grid lies in the interval, one of them does.
-/

namespace RackInventory

/-- A decimal number: an integer times a power of ten. -/
structure Decimal where
  coefficient : Nat
  exponent : Int
deriving DecidableEq, Repr

namespace Decimal

/-- Which of two equally near candidates is taken. -/
inductive Tie where
  | even
  | up
deriving DecidableEq

def digitCount (n : Nat) : Nat := if n = 0 then 0 else (Nat.toDigits 10 n).length

/-- The least j, up to `fuel`, for which num · 10^j reaches den. -/
def leadingZeros (num den : Nat) : (fuel : Nat) → Nat
  | 0 => 0
  | fuel + 1 => if den ≤ num then 0 else leadingZeros (num * 10) den fuel + 1

/-- The power of ten of the first digit of num / den. -/
def magnitude (num den : Nat) : Int :=
  if den ≤ num then (digitCount (num / den) : Int) - 1
  else -(leadingZeros num den 400 : Int)

/-- The interval of reals that round to a double, over a common denominator. -/
structure Interval where
  low : Nat
  value : Nat
  high : Nat
  denominator : Nat
  closed : Bool

/-- The interval around m · 2^q. Below a power of two the doubles lie closer. -/
def Interval.around (m : Nat) (q : Int) : Interval :=
  let below := if m = Nat.pow 2 52 ∧ q ≠ -1074 then 1 else 2
  let up := Nat.pow 2 (q - 2).toNat
  { low := (4 * m - below) * up
    value := 4 * m * up
    high := (4 * m + 2) * up
    denominator := Nat.pow 2 (2 - q).toNat
    closed := m % 2 = 0 }

def Interval.holds (i : Interval) (c : Nat) (k : Int) : Bool :=
  let point := c * Nat.pow 10 k.toNat * i.denominator
  let scale := Nat.pow 10 (-k).toNat
  if i.closed then i.low * scale ≤ point && point ≤ i.high * scale
  else i.low * scale < point && point < i.high * scale

/-- The nearest point of the grid of step 10^k that lies in the interval. -/
def Interval.nearest? (i : Interval) (tie : Tie) (k : Int) : Option Nat :=
  let value := i.value * Nat.pow 10 (-k).toNat
  let step := Nat.pow 10 k.toNat * i.denominator
  let c := value / step
  let rest := value % step
  match i.holds c k, i.holds (c + 1) k with
  | false, false => none
  | true, false => some c
  | false, true => some (c + 1)
  | true, true =>
    if 2 * rest < step then some c
    else if step < 2 * rest then some (c + 1)
    else match tie with
      | .up => some (c + 1)
      | .even => some (if c % 2 = 0 then c else c + 1)

/-- Removes trailing zeros of the coefficient. -/
def strip (c : Nat) (k : Int) : (fuel : Nat) → Decimal
  | 0 => ⟨c, k⟩
  | fuel + 1 => if c % 10 = 0 ∧ c ≠ 0 then strip (c / 10) (k + 1) fuel else ⟨c, k⟩

/-- The shortest decimal that reads back as m · 2^q. -/
def shortest (tie : Tie) (m : Nat) (q : Int) : Decimal :=
  if m = 0 then ⟨0, 0⟩
  else
    let i := Interval.around m q
    let top := magnitude i.value i.denominator
    let found := (List.range 17).findSome? fun (n : Nat) =>
      (i.nearest? tie (top - n)).map fun c => strip c (top - n) 20
    found.getD ⟨m, 0⟩

def digits (d : Decimal) : List Char := Nat.toDigits 10 d.coefficient

/-- A number with every digit of it before or after the point. -/
def positional (d : Decimal) : List Char :=
  let ds := d.digits
  let point := (ds.length : Int) + d.exponent
  if d.coefficient = 0 then ['0']
  else if 0 ≤ d.exponent then ds ++ List.replicate d.exponent.toNat '0'
  else if 0 < point then ds.take point.toNat ++ '.' :: ds.drop point.toNat
  else '0' :: '.' :: List.replicate (-point).toNat '0' ++ ds

end Decimal

end RackInventory
