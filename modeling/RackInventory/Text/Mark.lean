import RackInventory.Text.CharRanges
import RackInventory.Text.Mark.Table

/-!
# Marks

Marks attach to the character before them.
-/

namespace RackInventory.Mark

def isNonspacing (c : Char) : Bool := CharRanges.contains nonspacingRanges c

def isMark (c : Char) : Bool := isNonspacing c || CharRanges.contains spacingRanges c

end RackInventory.Mark
