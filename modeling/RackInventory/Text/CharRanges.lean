/-!
# Sets of characters as ranges of code points

The property tables of this library are lists of inclusive ranges. Only membership is asked of
them, so nothing is assumed about their order.
-/

namespace RackInventory.CharRanges

def contains (ranges : List (Nat × Nat)) (c : Char) : Bool :=
  ranges.any fun r => r.1 ≤ c.toNat && c.toNat ≤ r.2

end RackInventory.CharRanges
