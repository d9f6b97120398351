import RackInventory.Text.Width
import RackInventory.Url.Form

/-!
# Tables with a frame

A table has a header and rows, and is drawn in a frame of lines. A column is as wide as its widest
line, in columns of the terminal, with a blank at either side. A cell with line breaks takes several
lines of its row.
-/

namespace RackInventory

structure Table where
  header : List String
  rows : List (List String)
deriving DecidableEq

namespace Table

def cellLines (cell : String) : List String := (Form.split '\n' cell.toList).map String.ofList

def cellWidth (cell : String) : Nat := (cellLines cell).foldl (fun w line => max w (columns line)) 0

def widths (t : Table) : List Nat :=
  t.rows.foldl (fun ws row => List.zipWith max ws (row.map cellWidth)) (t.header.map cellWidth)

def pad (width : Nat) (s : String) : String :=
  s ++ String.ofList (List.replicate (width - columns s) ' ')

/-- A line of the frame. -/
def rule (left fill cross right : String) (ws : List Nat) : String :=
  left ++ String.intercalate cross (ws.map fun w => String.join (List.replicate (w + 2) fill)) ++ right

def rowLine (ws : List Nat) (cells : List String) : String :=
  "│ " ++ String.intercalate " ┆ " (List.zipWith pad ws cells) ++ " │"

def rowLines (ws : List Nat) (row : List String) : List String :=
  let cells := row.map cellLines
  let height := cells.foldl (fun h lines => max h lines.length) 1
  (List.range height).map fun i => rowLine ws (cells.map fun lines => (lines[i]?).getD "")

def bodyLines (ws : List Nat) (rows : List (List String)) : List String :=
  (List.intersperse [rule "├" "╌" "┼" "┤" ws] (rows.map (rowLines ws))).flatten

def lines (t : Table) : List String :=
  let ws := t.widths
  rule "┌" "─" "┬" "┐" ws :: rowLines ws t.header ++ rule "╞" "═" "╪" "╡" ws ::
    bodyLines ws t.rows ++ [rule "└" "─" "┴" "┘" ws]

/-- The table as text, without a line break at its end. -/
def text (t : Table) : String := String.intercalate "\n" t.lines

end Table

end RackInventory
