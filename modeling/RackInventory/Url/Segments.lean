import RackInventory.Url.Host

/-!
# Paths as lists of segments

A path is read segment by segment. A segment of one dot stands for nothing and one of two dots takes
back the segment before it, also when the dots are written as escapes; either leaves an empty
segment when it is the last. A segment that names a drive, a letter with a colon or a bar, is never
taken back.
-/

namespace RackInventory

abbrev Segment := List Char

namespace Segment

/-- Whether a segment is a letter with a colon or a bar. -/
def isDrive : Segment → Bool
  | [letter, mark] => letter.isAlpha && (mark == ':' || mark == '|')
  | _ => false

def isDot (s : Segment) : Bool :=
  [['.'], ['%', '2', 'e']].contains (s.map Host.lowerAscii)

/-- Two dots, as they are or escaped. -/
def isDoubleDot (s : Segment) : Bool :=
  [['.', '.'], ['%', '2', 'e', '.'], ['.', '%', '2', 'e'], ['%', '2', 'e', '%', '2', 'e']].contains
    (s.map Host.lowerAscii)

/-- The list without its last segment, unless that names a drive. -/
def takeBack (done : List Segment) : List Segment :=
  match done.getLast? with
  | some last => if last.isDrive then done else done.dropLast
  | none => []

/-- A drive at the start of the path of a file is written with a colon. -/
def normalDrive (isFile : Bool) (done : List Segment) (s : Segment) : Segment :=
  if isFile && done.isEmpty && s.isDrive then s.take 1 ++ [':'] else s

/-- The path after the segments `done` when one more has been read. -/
def add (isFile : Bool) (done : List Segment) (s : Segment) (isLast : Bool) : List Segment :=
  if s.isDoubleDot then takeBack done ++ (if isLast then [[]] else [])
  else if s.isDot then done ++ (if isLast then [[]] else [])
  else done ++ [normalDrive isFile done s]

/-- The path after the segments `done` and all of a list. -/
def addAll (isFile : Bool) (done : List Segment) : List Segment → List Segment
  | [] => done
  | [s] => add isFile done s true
  | s :: rest => addAll isFile (add isFile done s false) rest

/-- The path of a file has no empty segments at the start. -/
def trimStart (isFile : Bool) (path : List Segment) : List Segment :=
  if isFile then
    match path.dropWhile List.isEmpty with
    | [] => [[]]
    | rest => rest
  else path

/-- The tab and the line breaks, which addresses ignore. -/
def isIgnored (c : Char) : Bool := c == '\t' || c == '\n' || c == '\r'

/-- Whether an ignored character stands right in front of the last `count` characters that are not
ignored, in a text with its last character first. -/
def isBrokenBefore : (count : Nat) → List Char → Bool
  | _, [] => false
  | 0, c :: _ => isIgnored c
  | count + 1, c :: rest => isBrokenBefore (if isIgnored c then count + 1 else count) rest

/-- Cuts the path of a file behind its drive, where a character follows the drive but ignored ones
stand between. What is left goes on as a segment of its own, in which dots have no meaning. The path
is part of a text with ignored characters, and `after` others follow it there. -/
def cutDrive? (text : List Char) (after : Nat) : List Char → Option (Segment × List Char)
  | letter :: ':' :: c :: rest =>
    if letter.isAlpha ∧ isBrokenBefore (rest.length + 1 + after) text.reverse then
      some ([letter, ':'], c :: rest)
    else none
  | _ => none

/-- The path with one more segment, whose text is encoded. A lone empty segment is replaced. Dots
are left out. -/
def append (isFile special : Bool) (path : List Segment) (text : List Char) : List Segment :=
  if text = ['.'] ∨ text = ['.', '.'] then path
  else
    let done := if path = [[]] then [] else path
    let encode := Percent.encode (Percent.segmentSet special)
    let shown := text.filter (!isIgnored ·)
    match if isFile ∧ done = [] then cutDrive? text 0 shown else none with
    | some (drive, rest) => [drive, encode rest]
    | none => trimStart isFile (addAll isFile done [encode shown])

/-- The path without an empty segment at the end. -/
def dropEmptyLast (path : List Segment) : List Segment :=
  if 1 < path.length ∧ path.getLast? = some [] then path.dropLast else path

end Segment

end RackInventory
