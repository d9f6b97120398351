/-!
# Text as bytes

The UTF-8 form of a text, and two ways back: a strict one that refuses ill-formed bytes, and one
that puts the replacement character for each longest ill-formed piece. Both walk over the bytes
with the same step, so they agree on well-formed bytes.
-/

namespace RackInventory

abbrev Bytes := List UInt8

namespace Utf8

def encode (cs : List Char) : List UInt8 := cs.flatMap String.utf8EncodeChar

def ofString (s : String) : List UInt8 := encode s.toList

/-- The range of the second byte and the number of further bytes, by the first byte. -/
def lead (b : UInt8) : Option (Nat × Nat × Nat) :=
  let n := b.toNat
  if n < 0xC2 then none
  else if n ≤ 0xDF then some (0x80, 0xBF, 1)
  else if n = 0xE0 then some (0xA0, 0xBF, 2)
  else if n = 0xED then some (0x80, 0x9F, 2)
  else if n ≤ 0xEF then some (0x80, 0xBF, 2)
  else if n = 0xF0 then some (0x90, 0xBF, 3)
  else if n ≤ 0xF3 then some (0x80, 0xBF, 3)
  else if n = 0xF4 then some (0x80, 0x8F, 3)
  else none

/-- The value bits of the first byte of a character with `more` further bytes. -/
def leadBits (b : UInt8) (more : Nat) : Nat :=
  match more with
  | 1 => b.toNat % 32
  | 2 => b.toNat % 16
  | _ => b.toNat % 8

/-- Reads `more` further bytes onto the bits `acc`, the next one from the range `lo` to `hi`. The
second component is what follows the bytes that fit. -/
def tail (acc : Nat) (lo hi : Nat) : (more : Nat) → List UInt8 → Option Nat × List UInt8
  | 0, bs => (some acc, bs)
  | _ + 1, [] => (none, [])
  | more + 1, b :: bs =>
    if lo ≤ b.toNat ∧ b.toNat ≤ hi then tail (acc * 64 + b.toNat % 64) 0x80 0xBF more bs
    else (none, b :: bs)

/-- Reads one character from `b :: bs`: the character, or nothing for an ill-formed piece, and
the bytes after it. -/
def step (b : UInt8) (bs : List UInt8) : Option Char × List UInt8 :=
  if b.toNat < 0x80 then (some (Char.ofNat b.toNat), bs)
  else match lead b with
    | none => (none, bs)
    | some (lo, hi, more) =>
      match tail (leadBits b more) lo hi more bs with
      | (some n, rest) => (some (Char.ofNat n), rest)
      | (none, rest) => (none, rest)

theorem length_tail_le (acc lo hi more : Nat) (bs : List UInt8) :
    (tail acc lo hi more bs).2.length ≤ bs.length := by
  induction more generalizing acc lo hi bs with
  | zero => simp [tail]
  | succ more ih =>
    cases bs with
    | nil => simp [tail]
    | cons b bs =>
      unfold tail
      split
      · exact Nat.le_succ_of_le (ih ..)
      · simp

theorem length_step_le (b : UInt8) (bs : List UInt8) : (step b bs).2.length ≤ bs.length := by
  unfold step
  split
  · simp
  · split
    · simp
    · rename_i lo hi more _
      have h := length_tail_le (leadBits b more) lo hi more bs
      split <;> simp_all

/-- The characters of the bytes, one by one; nothing in place of an ill-formed piece. -/
def pieces : List UInt8 → List (Option Char)
  | [] => []
  | b :: bs => (step b bs).1 :: pieces (step b bs).2
termination_by bs => bs.length
decreasing_by exact Nat.lt_succ_of_le (length_step_le b bs)

def decode? (bs : List UInt8) : Option (List Char) := (pieces bs).mapM id

/-- The text of any bytes, with the replacement character for what is ill-formed. -/
def decodeLossy (bs : List UInt8) : List Char := (pieces bs).map (·.getD '\uFFFD')

def toString? (bs : List UInt8) : Option String := (decode? bs).map String.ofList

end Utf8

end RackInventory
