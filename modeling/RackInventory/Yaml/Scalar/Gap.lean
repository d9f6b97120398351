import RackInventory.Yaml.Place

/-!
# Gaps in texts that go on over several lines

A gap without a line break stands for its blanks. In one with line breaks the blanks do not count; a
single line feed stands for a blank, and the first of several for nothing.
-/

namespace RackInventory.Yaml.Gap

/-- What the line breaks of a gap stand for. -/
def folded : List Char → List Char
  | [] => []
  | first :: more =>
    if first = '\n' then (if more.isEmpty then [' '] else more) else first :: more

def text (gap : List Char) : List Char :=
  let breaks := gap.filter isBreak
  if breaks.isEmpty then gap else folded breaks

/-- Whether a tab stands before column `margin` in a line of a gap. The column is unknown until there
is a line break. -/
def tabBefore (margin : Nat) : (column : Option Nat) → List Char → Bool
  | _, [] => false
  | column, c :: rest =>
    if isBreak c then tabBefore margin (some 0) rest
    else (c == '\t' && column.any (· < margin)) || tabBefore margin (column.map (· + 1)) rest

end RackInventory.Yaml.Gap
