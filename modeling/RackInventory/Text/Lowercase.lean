import RackInventory.Text.CharRanges
import RackInventory.Text.Lowercase.Table

/-!
# Full lower-case form of a text

Every character is replaced by its lower-case form. Two characters are special: the capital I with
a dot becomes two characters, and a capital sigma takes its final form at the end of a word, that
is, after a cased letter and not before one, case-ignorable characters being skipped on both sides.
The form of a sigma therefore depends on its neighbours, and lowering does not commute with
cutting a text in two.
-/

namespace RackInventory

namespace Lowercase

/-- The letters A to Z, lowered. -/
def asciiLower (c : Char) : Char :=
  if 'A' ≤ c ∧ c ≤ 'Z' then Char.ofNat (c.toNat + 32) else c

/-- The row of the table that lowers a character, if one does. -/
def runOf? (n : Nat) : Option (Nat × Nat × Nat × Int) :=
  runs.find? fun (first, last, step, _) => first ≤ n && n ≤ last && (n - first) % step == 0

/-- The lower-case form of a character that has one of a single character. -/
def simple (c : Char) : Char :=
  if c.toNat < 0x80 then asciiLower c
  else match runOf? c.toNat with
    | some (_, _, _, distance) => Char.ofNat (c.toNat + distance).toNat
    | none => c

def isCased (c : Char) : Bool := CharRanges.contains casedRanges c

def isCaseIgnorable (c : Char) : Bool := CharRanges.contains caseIgnorableRanges c

/-- Whether the first character that is not case-ignorable is cased. -/
def meetsCased (cs : List Char) : Bool :=
  match cs.dropWhile isCaseIgnorable with
  | [] => false
  | c :: _ => isCased c

/-- The lower-case form of a character between the reversed text before it and the text after. -/
def lowerAt (before : List Char) (c : Char) (after : List Char) : List Char :=
  if c = 'Σ' then [if meetsCased before && !meetsCased after then 'ς' else 'σ']
  else if c = 'İ' then ['i', '\u0307']
  else [simple c]

/-- Lowers a text that stands after the reversed text `before`. -/
def lowerFrom (before : List Char) : List Char → List Char
  | [] => []
  | c :: after => lowerAt before c after ++ lowerFrom (c :: before) after

def lower (cs : List Char) : List Char := lowerFrom [] cs

end Lowercase

end RackInventory
