/-!
# Rounding of quotients

The nearest integer to a quotient, with two rules for a half, and the double nearest to a quotient.
All of it is integer arithmetic: a double of at least 2^-8 is a multiple of 2^-60, and that multiple
stands for it here.
-/

namespace RackInventory

/-- The nearest integer; a half goes to the even neighbour. -/
def roundHalfEven (num den : Nat) : Nat :=
  let q := num / den
  let r := num % den
  if 2 * r < den then q
  else if den < 2 * r then q + 1
  else if q % 2 = 0 then q else q + 1

/-- The nearest integer; a half goes up. -/
def roundHalfUp (num den : Nat) : Nat := (2 * num + den) / (2 * den)

/-- One, as a multiple of 2^-60. -/
def doubleUnit : Nat := Nat.pow 2 60

/-- The double nearest to num / den, as a multiple of 2^-60; the quotient must reach 2^-8. Doubles
keep 53 bits, so the spacing below 2^(e + 1) is 2^(e - 52). -/
def nearestDouble (num den : Nat) : Nat :=
  let e := Nat.log2 (num * Nat.pow 2 8 / den)
  roundHalfEven (num * doubleUnit) (den * Nat.pow 2 e) * Nat.pow 2 e

end RackInventory
