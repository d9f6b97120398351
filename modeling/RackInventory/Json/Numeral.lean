import RackInventory.Json.Basic
import RackInventory.Json.Reader

/-!
# Numerals

A numeral without a point or an exponent is an integer if it fits the 64-bit integers, signed when
it has a minus sign; minus zero is the double. All others are doubles: at most 64 bits of digits
are kept, later digits of the integer part count as zeros and later digits of the fraction are
ignored, and the integer read is multiplied or divided by a power of ten in double arithmetic.
The result is therefore not always the nearest double.
-/

namespace RackInventory.Json

namespace Numeral

/-- The digits kept so far, and the power of ten that they are to be multiplied by. -/
structure Scaled where
  significand : Nat
  exponent : Int
deriving DecidableEq

/-- Adds a digit of the integer part; it counts as zero from the first digit that does not fit. -/
def pushInteger (s : Scaled) (digit : Nat) : Scaled :=
  if s.exponent = 0 ∧ s.significand * 10 + digit < Nat.pow 2 64 then
    { s with significand := s.significand * 10 + digit }
  else { s with exponent := s.exponent + 1 }

/-- The digits of a fraction, up to the first that does not fit. -/
def pushFraction (s : Scaled) : List Nat → Scaled
  | [] => s
  | digit :: rest =>
    if s.significand * 10 + digit < Nat.pow 2 64 then
      pushFraction ⟨s.significand * 10 + digit, s.exponent - 1⟩ rest
    else s

def powerOfTen (n : Nat) : Float := Float.ofScientific 1 false n

/-- Multiplies by a power of ten in double arithmetic; nothing when the result is too large. -/
def scale (x : Float) (e : Int) : (fuel : Nat) → Option Float
  | 0 => some x
  | fuel + 1 =>
    if e.natAbs ≤ 308 then
      if 0 ≤ e then
        let y := x * powerOfTen e.natAbs
        if y.isInf then none else some y
      else some (x / powerOfTen e.natAbs)
    else if x == 0 then some x
    else if 0 ≤ e then none
    else scale (x / powerOfTen 308) (e + 308) fuel

/-- The double of a scaled integer. -/
def Scaled.toFloat? (negative : Bool) (s : Scaled) : Option Float :=
  (scale (UInt64.ofNat s.significand).toFloat s.exponent 4).map fun x => if negative then -x else x

def integerNumber (negative : Bool) (n : Nat) : Number :=
  if !negative then .integer n
  else if n = 0 ∨ Nat.pow 2 63 < n then .float (-(UInt64.ofNat n).toFloat)
  else .integer (-n)

def ofDigits (ds : List Nat) : Nat := ds.foldl (fun n d => n * 10 + d) 0

open Reader in
/-- The digits of the integer part: one zero, or digits that do not start with zero. -/
def integerDigits : Reader (List Nat) := do
  match ← takeDigits with
  | [] =>
    match ← next with
    | none => fail .endInValue
    | some _ => fail .invalidNumber
  | 0 :: _ :: _ => fail .invalidNumber
  | ds => pure ds

open Reader in
def fractionDigits : Reader (List Nat) := do
  match ← takeDigits with
  | [] =>
    match ← peek with
    | none => fail .endInValue
    | some _ => fail .invalidNumber
  | ds => pure ds

open Reader in
/-- The sign and the digits after an exponent mark. -/
def exponentPart : Reader (Bool × List Nat) := do
  let sign ← peek
  if sign = some '+' ∨ sign = some '-' then advance
  match ← takeDigits with
  | [] =>
    match ← next with
    | none => fail .endInValue
    | some _ => fail .invalidNumber
  | ds => pure (sign = some '-', ds)

/-- Applies an exponent; one of more than 31 bits gives zero or is out of range. -/
def withExponent (negative : Bool) (s : Scaled) (down : Bool) (power : Nat) : Option Float :=
  if Nat.pow 2 31 ≤ power then
    if s.significand ≠ 0 ∧ !down then none else some (if negative then -0.0 else 0.0)
  else Scaled.toFloat? negative ⟨s.significand, if down then s.exponent - power else s.exponent + power⟩

open Reader in
def ofFloat? (x : Option Float) : Reader Number :=
  match x with
  | some x => pure (.float x)
  | none => fail .numberOutOfRange

open Reader in
def read (negative : Bool) : Reader Number := do
  let whole := (← integerDigits).foldl pushInteger ⟨0, 0⟩
  match ← peek with
  | some '.' =>
    advance
    let s := pushFraction whole (← fractionDigits)
    let mark ← peek
    if mark = some 'e' ∨ mark = some 'E' then
      advance
      let (down, ds) ← exponentPart
      ofFloat? (withExponent negative s down (ofDigits ds))
    else ofFloat? (s.toFloat? negative)
  | some 'e' | some 'E' =>
    advance
    let (down, ds) ← exponentPart
    ofFloat? (withExponent negative whole down (ofDigits ds))
  | _ =>
    if whole.exponent = 0 then pure (integerNumber negative whole.significand)
    else ofFloat? (whole.toFloat? negative)

open Reader in
/-- Passes over a numeral after its minus sign, if it has one; its size does not matter. -/
def skip : Reader Unit := do
  match ← takeDigits with
  | [] => fail .invalidNumber
  | 0 :: _ :: _ => fail .invalidNumber
  | _ => pure ()
  match ← peek with
  | some '.' =>
    advance
    if (← takeDigits).isEmpty then fail .invalidNumber
    let mark ← peek
    if mark = some 'e' ∨ mark = some 'E' then skipExponent
  | some 'e' | some 'E' => skipExponent
  | _ => pure ()
where
  skipExponent : Reader Unit := do
    advance
    let sign ← peek
    if sign = some '+' ∨ sign = some '-' then advance
    if (← takeDigits).isEmpty then fail .invalidNumber

end Numeral

end RackInventory.Json
