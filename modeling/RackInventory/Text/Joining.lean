import RackInventory.Text.Composed
import RackInventory.Text.Joining.Table
import RackInventory.Text.Mark

/-!
# Joiners

A joiner is in place after a mark that silences a vowel. One that keeps letters apart is also in place
between letters that would join, with only transparent ones between.
-/

namespace RackInventory.Joining

/-- Whether letters join through a character. -/
def isTransparent (c : Char) : Bool :=
  Mark.isNonspacing c || CharRanges.contains transparentRanges c

/-- Whether the next character that is not transparent is in a set. -/
def nextIn (ranges : List (Nat × Nat)) (s : List Char) : Bool :=
  (s.dropWhile isTransparent).head?.any (CharRanges.contains ranges)

/-- Whether a joiner is in place, after a text with its last character first and before another. -/
def fits (joiner : Char) (before after : List Char) : Bool :=
  before.head?.any (Composed.classOf · = 9) ||
    (joiner == '\u200C' && !before.isEmpty && nextIn forwardRanges before && nextIn backwardRanges after)

/-- Whether the joiners of a text are in place, after a text with its last character first. -/
def allFit (before : List Char) : List Char → Bool
  | [] => true
  | c :: after =>
    (!(c == '\u200C' || c == '\u200D') || fits c before after) && allFit (c :: before) after

end RackInventory.Joining
