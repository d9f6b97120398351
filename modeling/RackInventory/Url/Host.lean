import RackInventory.Url.Domain
import RackInventory.Url.Percent

/-!
# Hosts

The host of an address with a well-known scheme is a domain name, an IPv4 address or an IPv6
address in brackets. A name whose last part is a number is taken as an IPv4 address, whose parts may
be octal or hexadecimal and whose last part may stand for several bytes. A host of any other scheme is
opaque.

Only names in ASCII are admitted, with or without encoded labels. The map that brings other names into
ASCII is left out, and such a name is refused.
-/

namespace RackInventory.Host

inductive Error where
  | empty
  | name
  | ipv4
  | ipv6
  | character
deriving DecidableEq, Repr

/-- The number of a part, and nothing if it is none. Zero digits after a prefix are zero. -/
def numberOf? (part : List Char) : Option Nat :=
  let digits (base : Nat) (ds : List Char) : Option Nat :=
    ds.foldlM (fun n c => do
      let d ← Percent.digitValue? c
      if d < base then some (n * base + d) else none) 0
  match part with
  | [] => none
  | '0' :: 'x' :: rest => digits 16 rest
  | '0' :: 'X' :: rest => digits 16 rest
  | '0' :: c :: rest => digits 8 (c :: rest)
  | ds => digits 10 ds

def splitDots : List Char → List (List Char)
  | [] => [[]]
  | '.' :: rest => [] :: splitDots rest
  | c :: rest =>
    match splitDots rest with
    | [] => [[c]]
    | part :: parts => (c :: part) :: parts

/-- The parts between dots, without an empty one at the end. -/
def parts (name : List Char) : List (List Char) :=
  let all := splitDots name
  if all.getLast? = some [] then all.dropLast else all

def endsInNumber (name : List Char) : Bool :=
  match (parts name).getLast? with
  | some last => (!last.isEmpty && last.all Char.isDigit) || (numberOf? last).isSome
  | none => false

/-- The address of some numbers: each but the last is one byte, the last fills what is left. -/
def addressOf (numbers : List Nat) : Option Nat :=
  match numbers.getLast? with
  | none => none
  | some last =>
    let bytes := numbers.dropLast
    if 3 < bytes.length ∨ bytes.any (255 < ·) ∨ Nat.pow 256 (4 - bytes.length) ≤ last then none
    else some (bytes.foldl (fun n b => n * 256 + b) 0 * Nat.pow 256 (4 - bytes.length) + last)

def ipv4? (name : List Char) : Option Nat :=
  let ps := parts name
  if 4 < ps.length then none else do addressOf (← ps.mapM numberOf?)

def ipv4Text (address : Nat) : List Char :=
  let byte (i : Nat) : List Char := Nat.toDigits 10 (address / Nat.pow 256 i % 256)
  byte 3 ++ '.' :: byte 2 ++ '.' :: byte 1 ++ '.' :: byte 0

/-- The pieces read so far, where the gap is, and what is left of the text. -/
structure Pieces where
  before : List Nat
  gap : Option Nat
  rest : List Char

def hexRun : Nat → List Char → List Nat × List Char
  | 0, s => ([], s)
  | n + 1, s =>
    match s with
    | [] => ([], [])
    | c :: rest =>
      match Percent.digitValue? c with
      | some d => (d :: (hexRun n rest).1, (hexRun n rest).2)
      | none => ([], s)

/-- A decimal byte without leading zeros, followed by one that is not a digit. -/
def decimalByte? (s : List Char) : Option (Nat × List Char) :=
  let ds := s.takeWhile Char.isDigit
  let n := ds.foldl (fun n c => n * 10 + (c.toNat - 48)) 0
  match ds with
  | [] => none
  | '0' :: _ :: _ => none
  | _ => if 255 < n then none else some (n, s.dropWhile Char.isDigit)

/-- The two pieces of an IPv4 address at the end. -/
def embedded? (s : List Char) : Option (List Nat) := do
  let (a, s) ← decimalByte? s
  let s ← dot? s
  let (b, s) ← decimalByte? s
  let s ← dot? s
  let (c, s) ← decimalByte? s
  let s ← dot? s
  let (d, s) ← decimalByte? s
  if s.isEmpty then some [a * 256 + b, c * 256 + d] else none
where
  dot? : List Char → Option (List Char)
    | '.' :: s => some s
    | _ => none

/-- Reads the pieces after `before`, in order; a gap stands for zeros. -/
def piecesFrom (before : List Nat) (gap : Option Nat) : (fuel : Nat) → List Char → Option (List Nat × Option Nat)
  | 0, _ => none
  | _ + 1, [] => some (before, gap)
  | fuel + 1, c :: s =>
    if before.length = 8 then none
    else if c = ':' then
      if gap.isSome then none else piecesFrom before (some before.length) fuel s
    else
      let (ds, rest) := hexRun 4 (c :: s)
      let value := ds.foldl (fun n d => n * 16 + d) 0
      match rest with
      | '.' :: _ =>
        if ds.isEmpty ∨ 6 < before.length then none
        else do return (before ++ (← embedded? (c :: s)), gap)
      | ':' :: after =>
        if after.isEmpty then none else piecesFrom (before ++ [value]) gap fuel after
      | [] => some (before ++ [value], gap)
      | _ => none

def ipv6? (s : List Char) : Option (List Nat) := do
  let start ← match s with
    | ':' :: ':' :: rest => piecesFrom [] (some 0) (s.length + 1) rest
    | ':' :: _ => none
    | _ => piecesFrom [] none (s.length + 1) s
  match start with
  | (pieces, some gap) =>
    if pieces.length < 8 then
      some (pieces.take gap ++ List.replicate (8 - pieces.length) 0 ++ pieces.drop gap)
    else if pieces.length = 8 then some pieces else none
  | (pieces, none) => if pieces.length = 8 then some pieces else none

def zeroRun (pieces : List Nat) : Nat := (pieces.takeWhile (· = 0)).length

/-- The start and length of the first longest run of zeros. -/
def longestZeros (pieces : List Nat) : Nat × Nat :=
  (List.range pieces.length).foldl
    (fun best i => if best.2 < zeroRun (pieces.drop i) then (i, zeroRun (pieces.drop i)) else best)
    (0, 0)

def joinColons (pieces : List Nat) : List Char :=
  (List.intersperse [':'] (pieces.map (Nat.toDigits 16))).flatten

/-- An address with its longest run of two or more zeros left out. -/
def ipv6Text (pieces : List Nat) : List Char :=
  let (start, length) := longestZeros pieces
  if length < 2 then joinColons pieces
  else joinColons (pieces.take start) ++ [':', ':'] ++ joinColons (pieces.drop (start + length))

def forbiddenInName (c : Char) : Bool :=
  c.toNat ≤ 0x20 || c.toNat == 0x7F ||
    ['%', '#', '/', ':', '<', '>', '?', '@', '[', '\\', ']', '^', '|'].contains c

def forbiddenInOpaque (c : Char) : Bool :=
  c.toNat = 0 || ['\t', '\n', '\r', ' ', '#', '/', ':', '<', '>', '?', '@', '[', '\\', ']', '^',
    '|'].contains c

def lowerAscii (c : Char) : Char := if 'A' ≤ c ∧ c ≤ 'Z' then Char.ofNat (c.toNat + 32) else c

def bracketed (inside : List Char) : Except Error (List Char) :=
  match inside.getLast? with
  | some ']' =>
    match ipv6? inside.dropLast with
    | some pieces => .ok ('[' :: ipv6Text pieces ++ [']'])
    | none => .error .ipv6
  | _ => .error .ipv6

/-- The written form of the host of an address with a well-known scheme. -/
def parse (s : List Char) : Except Error (List Char) :=
  match s with
  | '[' :: inside => bracketed inside
  | _ =>
    let bytes := Percent.decode s
    if bytes.all (· < 0x80) then
      let name := (bytes.map fun b => Char.ofNat b.toNat).map lowerAscii
      if name.any forbiddenInName ∨ !Domain.isValid (splitDots name) then .error .name
      else if name.isEmpty then .error .empty
      else if endsInNumber name then
        match ipv4? name with
        | some address => .ok (ipv4Text address)
        | none => .error .ipv4
      else .ok name
    else .error .name

def parseOpaque (s : List Char) : Except Error (List Char) :=
  match s with
  | '[' :: inside => bracketed inside
  | _ =>
    if s.any forbiddenInOpaque then .error .character
    else .ok (Percent.encode Percent.control s)

end RackInventory.Host
