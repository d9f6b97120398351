/-!
# A double as an integer times a power of two

The finite doubles are the numbers m · 2^q that their 64 bits spell out. The decoding is exact, so
every later decision about decimal digits is made on integers. Infinities and the values that are
no number have no parts.
-/

namespace RackInventory

/-- The sign, the integer and the power of two of a finite double. -/
structure Binary where
  negative : Bool
  significand : Nat
  exponent : Int
deriving DecidableEq, Repr

namespace Binary

/-- The parts that a pattern of 64 bits spells out. -/
def ofBits (bits : Nat) : Option Binary :=
  let negative := bits / Nat.pow 2 63 % 2 == 1
  let biased : Nat := bits / Nat.pow 2 52 % 2048
  let fraction : Nat := bits % Nat.pow 2 52
  if biased = 2047 then none
  else if biased = 0 then some ⟨negative, fraction, -1074⟩
  else some ⟨negative, Nat.pow 2 52 + fraction, (biased : Int) - 1075⟩

def ofFloat (x : Float) : Option Binary := ofBits x.toBits.toNat

def integerPart (b : Binary) : Nat :=
  if 0 ≤ b.exponent then b.significand * Nat.pow 2 b.exponent.toNat
  else b.significand / Nat.pow 2 (-b.exponent).toNat

def isInteger (b : Binary) : Bool :=
  0 ≤ b.exponent || b.significand % Nat.pow 2 (-b.exponent).toNat == 0

end Binary

end RackInventory
