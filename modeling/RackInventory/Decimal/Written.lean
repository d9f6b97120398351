import RackInventory.Decimal.Shortest

/-!
# How doubles are written

Two forms of the shortest digits. In messages for people a number is positional, whatever its
size, and a whole number has no point. In documents a number always has a point or an exponent:
it is positional when its first digit stands at most sixteen places before the point and at most
five after it, and otherwise has one digit before the point and an exponent with its sign.
-/

namespace RackInventory

namespace Decimal

def pointed (d : Decimal) : List Char :=
  let ds := d.digits
  let point := (ds.length : Int) + d.exponent
  if d.coefficient = 0 then ['0', '.', '0']
  else if 0 ≤ d.exponent ∧ point ≤ 16 then
    ds ++ List.replicate d.exponent.toNat '0' ++ ['.', '0']
  else if -5 < point ∧ point ≤ 16 then d.positional
  else
    let power := (if 0 < point then ['+'] else []) ++ (toString (point - 1)).toList
    match ds with
    | [a] => a :: 'e' :: power
    | a :: rest => a :: '.' :: rest ++ 'e' :: power
    | [] => []

end Decimal

def withSign (b : Binary) (magnitude : List Char) : String :=
  String.ofList (if b.negative then '-' :: magnitude else magnitude)

/-- A double as documents show it. -/
def documentNumber (x : Float) : String :=
  match Binary.ofFloat x with
  | some b => withSign b (Decimal.shortest .even b.significand b.exponent).pointed
  | none => "null"

/-- A double as people read it. -/
def plainNumber (x : Float) : String :=
  match Binary.ofFloat x with
  | some b => withSign b (Decimal.shortest .up b.significand b.exponent).positional
  | none => if x.isNaN then "NaN" else if x < 0 then "-inf" else "inf"

/-- A double as people read it, a whole number with all its digits. -/
def amountNumber (x : Float) : String :=
  match Binary.ofFloat x with
  | some b => if b.isInteger then withSign b (Nat.toDigits 10 b.integerPart) else plainNumber x
  | none => plainNumber x

end RackInventory
