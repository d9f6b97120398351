import RackInventory.Text.Alphanumeric.Table
import RackInventory.Text.CharRanges

/-!
# Letters and numbers

The characters that names may be made of in every script.
-/

namespace RackInventory

def isAlphanumeric (c : Char) : Bool :=
  c.isAlphanum || CharRanges.contains Alphanumeric.ranges c

end RackInventory
