import RackInventory.Text.Composed.Table

/-!
# Composed texts

A text is composed if it is what one gets by taking its characters apart, putting the marks after each
character in the order of their classes, and putting together again what can be. A mark takes part in
that if no mark of its class or a higher one, and no other character, stands before it.
-/

namespace RackInventory.Composed

/-- The class of a character among marks; zero if it is none. -/
def classOf (c : Char) : Nat :=
  match classes.find? fun r => r.1 ≤ c.toNat && c.toNat ≤ r.2.1 with
  | some (_, _, n) => n
  | none => 0

/-- The two parts of a syllable: one without its last consonant and that, or two letters. -/
def syllableParts? (n : Nat) : Option (Nat × Nat) :=
  if 0xAC00 ≤ n ∧ n ≤ 0xD7A3 then
    let i := n - 0xAC00
    if i % 28 = 0 then some (0x1100 + i / 588, 0x1161 + i % 588 / 28)
    else some (n - i % 28, 0x11A7 + i % 28)
  else none

def syllable? (first second : Nat) : Option Nat :=
  if 0x1100 ≤ first ∧ first ≤ 0x1112 ∧ 0x1161 ≤ second ∧ second ≤ 0x1175 then
    some (0xAC00 + ((first - 0x1100) * 21 + (second - 0x1161)) * 28)
  else if 0xAC00 ≤ first ∧ first ≤ 0xD7A3 ∧ (first - 0xAC00) % 28 = 0 ∧ 0x11A8 ≤ second ∧
      second ≤ 0x11C2 then
    some (first + (second - 0x11A7))
  else none

def parts? (c : Char) : Option (Char × Char) :=
  let found := (pairs.find? (·.1 = c.toNat)).map (·.2) |>.or (syllableParts? c.toNat)
  found.map fun p => (Char.ofNat p.1, Char.ofNat p.2)

def whole? (first second : Char) : Option Char :=
  let found := (pairs.find? fun r => r.2.1 = first.toNat && r.2.2 = second.toNat).map (·.1)
  (found.or (syllable? first.toNat second.toNat)).map Char.ofNat

/-- What a character is made of. No character has more than four layers. -/
def takenApart : (layers : Nat) → Char → List Char
  | 0, c => [c]
  | layers + 1, c =>
    match parts? c with
    | some (first, second) => takenApart layers first ++ [second]
    | none => [c]

/-- Puts a character after a text, which has its last character first, in the order of classes. -/
def inOrder (text : List Char) (c : Char) : List Char :=
  match text with
  | [] => [c]
  | d :: rest => if classOf c ≠ 0 ∧ classOf c < classOf d then d :: inOrder rest c else c :: text

/-- Puts characters together with the one that they follow. The marks are those between, the last one
first. -/
def putTogether (base : Char) (marks : List Char) : List Char → List Char
  | [] => base :: marks.reverse
  | c :: rest =>
    let free := match marks with
      | [] => true
      | last :: _ => decide (classOf last < classOf c)
    match if free then whole? base c else none with
    | some whole => putTogether whole marks rest
    | none =>
      if classOf c = 0 then base :: marks.reverse ++ putTogether c [] rest
      else putTogether base (c :: marks) rest

def composed (text : List Char) : List Char :=
  let apart := (text.flatMap (takenApart 4)).foldl inOrder [] |>.reverse
  let leading := apart.takeWhile (classOf · ≠ 0)
  match apart.drop leading.length with
  | [] => leading
  | base :: rest => leading ++ putTogether base [] rest

def isComposed (text : List Char) : Bool := composed text == text

end RackInventory.Composed
