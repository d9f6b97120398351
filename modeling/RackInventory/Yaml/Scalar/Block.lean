import RackInventory.Yaml.Place

/-!
# Texts in indented blocks

The marks before a block say whether line breaks are kept or folded, what becomes of those at the end,
and how deep the block is indented; where they leave out the depth, its first lines give it.
-/

namespace RackInventory.Yaml

/-- What becomes of the line breaks at the end of a block. -/
inductive Chomp where
  | strip
  | clip
  | keep

/-- The marks before a block: a number and a sign, in either order. -/
structure BlockMarks where
  chomp : Chomp
  increment : Option Nat

def chompOf? : Char → Option Chomp
  | '-' => some .strip
  | '+' => some .keep
  | _ => none

/-- Reads the marks before a block. The depth must not be zero. -/
def blockMarks (p : Place) : Option (BlockMarks × Place) :=
  let digit? (p : Place) : Option Char := p.head?.filter (·.isDigit)
  let depth (c : Char) : Option Nat := if c = '0' then none else some (c.toNat - 48)
  match p.head?.bind chompOf?, digit? p with
  | some chomp, _ =>
    match digit? p.step with
    | some c => do return (⟨chomp, some (← depth c)⟩, p.step.step)
    | none => some (⟨chomp, none⟩, p.step)
  | none, some c => do
    let n ← depth c
    match p.step.head?.bind chompOf? with
    | some chomp => return (⟨chomp, some n⟩, p.step.step)
    | none => return (⟨.clip, some n⟩, p.step)
  | none, none => some (⟨.clip, none⟩, p)

/-- The line breaks of the empty lines before a line of a block, and how far blanks reach in them and
in that line. Where the depth is known, deeper blanks are not passed over. A tab must not stand in
their place. -/
structure EmptyLines where
  breaks : List Char
  reach : Nat
  after : Place

def emptyLines (depth : Option Nat) : (fuel : Nat) → Place → Option EmptyLines
  | 0, _ => none
  | fuel + 1, p =>
    let blanks := (p.rest.takeWhile (· = ' ')).length
    let p := p.steps (match depth with
      | some d => min blanks (d - p.column)
      | none => blanks)
    if p.head? = some '\t' ∧ depth.all (p.column < ·) then none
    else
      match p.rest with
      | [] => some ⟨[], p.column, p⟩
      | c :: _ =>
        if isBreak c then do
          let more ← emptyLines depth fuel p.step
          return ⟨c :: more.breaks, max p.column more.reach, more.after⟩
        else some ⟨[], p.column, p⟩

/-- The line break after a line of a block, and whether the line starts with a blank. -/
structure LineEnd where
  lineBreak : List Char
  indented : Bool

/-- What stands between two lines of a block. A line feed is folded between lines that do not start
with a blank. -/
def betweenLines (literal : Bool) (before : LineEnd) (breaks : List Char) (indented : Bool) :
    List Char :=
  if !literal ∧ before.lineBreak = ['\n'] ∧ !before.indented ∧ !indented then
    if breaks.isEmpty then [' '] else breaks
  else before.lineBreak ++ breaks

def atBlockEnd (chomp : Chomp) (last : LineEnd) (breaks : List Char) : List Char :=
  match chomp with
  | .strip => []
  | .clip => last.lineBreak
  | .keep => last.lineBreak ++ breaks

/-- The lines of a block at a depth, after a line and some empty lines. -/
def blockLines (literal : Bool) (chomp : Chomp) (depth : Nat) : (fuel : Nat) → LineEnd →
    (breaks : List Char) → Place → Option (List Char × Place)
  | 0, _, _, _ => none
  | fuel + 1, before, breaks, p =>
    if p.column = depth ∧ !p.rest.isEmpty then do
      let indented := p.head?.any isBlank
      let line := p.rest.takeWhile (!isBreak ·)
      let p := p.steps line.length
      let next ← emptyLines (some depth) (p.rest.length + 1) p.step
      let (more, q) ← blockLines literal chomp depth fuel ⟨p.rest.take 1, indented⟩ next.breaks
        next.after
      return (betweenLines literal before breaks indented ++ line ++ more, q)
    else some (atBlockEnd chomp before breaks, p)

/-- The text of a block, after its first mark, inside of something at column `margin - 1`. -/
def blockText (literal : Bool) (margin : Nat) (p : Place) : Option (List Char × Place) := do
  let (marks, p) ← blockMarks p
  let p ← p.toNextLine?
  let known := marks.increment.map (margin - 1 + ·)
  let first ← emptyLines known (p.rest.length + 1) p
  let depth := known.getD (max first.reach (max margin 1))
  blockLines literal marks.chomp depth (p.rest.length + 1) ⟨[], false⟩ first.breaks first.after

end RackInventory.Yaml
