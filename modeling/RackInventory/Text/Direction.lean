import RackInventory.Text.Direction.Table
import RackInventory.Text.Mark

/-!
# Directions of writing

A word in a name that holds letters from right to left has one direction: that of its first letter.
It ends with a letter of that direction or a digit, marks apart, and holds no letter of the other
direction. A word from right to left holds one kind of digits.
-/

namespace RackInventory

inductive Direction where
  | leftToRight
  | rightToLeft
  | arabicNumber
  | europeanNumber
  | mark
  | neutral
deriving DecidableEq

namespace Direction

def ofChar (c : Char) : Direction :=
  if CharRanges.contains rightToLeftRanges c then rightToLeft
  else if CharRanges.contains arabicNumberRanges c then arabicNumber
  else if CharRanges.contains europeanNumberRanges c then europeanNumber
  else if CharRanges.contains neutralRanges c then neutral
  else if Mark.isNonspacing c then mark
  else leftToRight

/-- Whether a character makes a name one that runs from right to left in part. -/
def isFromRight (d : Direction) : Bool := d == rightToLeft || d == arabicNumber

def agree (word : List Direction) : Bool :=
  let atEnd := (word.reverse.dropWhile (· == mark)).head?
  match word.head? with
  | none => true
  | some leftToRight =>
    word.all (!isFromRight ·) && atEnd.any fun d => d == leftToRight || d == europeanNumber
  | some rightToLeft =>
    word.all (· != leftToRight) &&
      !(word.contains arabicNumber && word.contains europeanNumber) &&
      atEnd.any fun d => d == europeanNumber || isFromRight d
  | some _ => false

end Direction

end RackInventory
