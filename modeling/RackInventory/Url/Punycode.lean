/-!
# Punycode

A text in ASCII letters, digits and hyphens stands for one with any characters: the ASCII characters
come first, up to the last hyphen, and each of the others is given by its distance from the one
before, counted over code points and places together, in the order of code points. A distance is
written with digits of a base of 36, whose weights depend on the distances before. Numbers have 32
bits.
-/

namespace RackInventory.Punycode

def digitValue? (c : Char) : Option Nat :=
  if 'a' ≤ c ∧ c ≤ 'z' then some (c.toNat - 97)
  else if 'A' ≤ c ∧ c ≤ 'Z' then some (c.toNat - 65)
  else if '0' ≤ c ∧ c ≤ '9' then some (c.toNat - 48 + 26)
  else none

/-- The least digit that does not end a number, at a position. -/
def threshold (bias position : Nat) : Nat := max 1 (min 26 (position - bias))

def fitsWord (n : Nat) : Bool := n < 4294967296

/-- Adds a number to `sum` and gives what follows it. -/
def addNumber (bias : Nat) : (position weight sum : Nat) → List Char → Option (Nat × List Char)
  | _, _, _, [] => none
  | position, weight, sum, c :: rest => do
    let digit ← digitValue? c
    let sum := sum + digit * weight
    let t := threshold bias position
    if !fitsWord sum then none
    else if digit < t then some (sum, rest)
    else if !fitsWord (weight * (36 - t)) then none
    else addNumber bias (position + 36) (weight * (36 - t)) sum rest

/-- The bias of a distance that has been scaled down, `steps` times at most. -/
def biasOf : (steps distance : Nat) → Nat
  | 0, distance => 36 * distance / (distance + 38)
  | steps + 1, distance =>
    if 455 < distance then 36 + biasOf steps (distance / 35) else 36 * distance / (distance + 38)

/-- The bias after a distance, in a text that has got `length` characters. -/
def nextBias (distance length : Nat) (first : Bool) : Nat :=
  let scaled := distance / (if first then 700 else 2)
  biasOf 7 (scaled + scaled / length)

/-- Inserts the characters that the rest of a text gives. -/
def insertAll : (fuel code index bias : Nat) → (text : List Char) → List Char → Option (List Char)
  | 0, _, _, _, _, _ => none
  | _ + 1, _, _, _, text, [] => some text
  | fuel + 1, code, index, bias, text, s => do
    let (sum, rest) ← addNumber bias 36 1 index s
    let length := text.length + 1
    let code := code + sum / length
    let place := sum % length
    if code.isValidChar then
      insertAll fuel code (place + 1) (nextBias (sum - index) length (index == 0))
        (text.take place ++ Char.ofNat code :: text.drop place) rest
    else none

def decode (s : List Char) : Option (List Char) :=
  let tail := (s.reverse.takeWhile (· ≠ '-')).reverse
  let head := s.take (s.length - tail.length - 1)
  insertAll (s.length + 1) 128 0 72 head (if head.isEmpty then s else tail)

end RackInventory.Punycode
