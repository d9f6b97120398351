import RackInventory.Text.Utf8

/-!
# Percent-encoding

A byte is written as a percent sign and two hexadecimal digits when it is not ASCII, or when its
character belongs to the set that must be encoded at this place. The sets grow from fragments to
single path segments, in which the percent sign itself is encoded: encoding a segment that is
encoded already therefore encodes it again.
-/

namespace RackInventory.Percent

def hexDigit (n : Nat) : Char := if n < 10 then Char.ofNat (48 + n) else Char.ofNat (55 + n)

def escape (b : UInt8) : List Char := ['%', hexDigit (b.toNat / 16), hexDigit (b.toNat % 16)]

def encodeByte (reserved : Char → Bool) (b : UInt8) : List Char :=
  if b.toNat < 0x80 ∧ reserved (Char.ofNat b.toNat) = false then [Char.ofNat b.toNat] else escape b

def encode (reserved : Char → Bool) (s : List Char) : List Char :=
  (Utf8.encode s).flatMap (encodeByte reserved)

def control (c : Char) : Bool := c.toNat < 0x20 || c.toNat == 0x7F

def fragmentSet (c : Char) : Bool := control c || [' ', '"', '<', '>', '\x60'].contains c

def pathSet (c : Char) : Bool := fragmentSet c || ['#', '?', '\x7b', '\x7d'].contains c

def userinfoSet (c : Char) : Bool :=
  pathSet c || ['/', ':', ';', '=', '@', '[', '\\', ']', '^', '|'].contains c

/-- What is encoded in a path segment that is added to a path. -/
def segmentSet (special : Bool) (c : Char) : Bool :=
  pathSet c || c == '/' || c == '%' || (special && c == '\\')

def querySet (special : Bool) (c : Char) : Bool :=
  control c || [' ', '"', '#', '<', '>'].contains c || (special && c == '\'')

def digitValue? (c : Char) : Option Nat :=
  if '0' ≤ c ∧ c ≤ '9' then some (c.toNat - 48)
  else if 'A' ≤ c ∧ c ≤ 'F' then some (c.toNat - 55)
  else if 'a' ≤ c ∧ c ≤ 'f' then some (c.toNat - 87)
  else none

/-- The bytes of a text with escapes; a percent sign without two digits stands for itself. -/
def decode : List Char → List UInt8
  | [] => []
  | '%' :: a :: b :: rest =>
    match digitValue? a, digitValue? b with
    | some x, some y => UInt8.ofNat (x * 16 + y) :: decode rest
    | _, _ => 0x25 :: decode (a :: b :: rest)
  | c :: rest => String.utf8EncodeChar c ++ decode rest

end RackInventory.Percent
