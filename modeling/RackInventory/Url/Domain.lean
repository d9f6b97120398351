import RackInventory.Text.Direction
import RackInventory.Text.Joining
import RackInventory.Url.Domain.Table
import RackInventory.Url.Punycode

/-!
# Domain names

A label of a domain name that starts with `xn--` stands for one with characters above ASCII. Such a
label is valid if it holds only characters that are kept as they are, is composed, does not start with
a mark, and has its joiners in place; and if there are letters from right to left in the name, each of
its labels has one direction.
-/

namespace RackInventory.Domain

/-- Whether a name may hold a character. All of ASCII has been seen to elsewhere. -/
def isAdmitted (c : Char) : Bool :=
  c.toNat < 0x80 || [lowerRanges, upperRanges, supplementaryRanges].any (CharRanges.contains · c)

def isValidLabel (label : List Char) : Bool :=
  label.all isAdmitted && Composed.isComposed label && !label.head?.any Mark.isMark &&
    Joining.allFit [] label

/-- The length of the longest text that is decoded. -/
def decodedLimit : Nat := 2000

/-- What a label in small letters stands for, if it is valid. One that ends with a hyphen would stand
for nothing but ASCII. -/
def decoded? : List Char → Option (List Char)
  | 'x' :: 'n' :: '-' :: '-' :: rest => do
    let label ←
      if rest.isEmpty ∨ rest.getLast? = some '-' ∨ decodedLimit < rest.length then none
      else Punycode.decode rest
    if isValidLabel label then some label else none
  | label => some label

/-- Whether the labels of a name have directions that may stand together. -/
def directionsAgree (labels : List (List Char)) : Bool :=
  let directions := labels.map (·.map Direction.ofChar)
  !(directions.any (·.any Direction.isFromRight)) || directions.all Direction.agree

/-- Whether a name, given by its labels in small letters, is valid. -/
def isValid (labels : List (List Char)) : Bool := (labels.mapM decoded?).any directionsAgree

end RackInventory.Domain
