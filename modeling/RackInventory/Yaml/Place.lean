/-!
# Places in a YAML document

A place is what is left of a document, and where in its line it stands. The characters that can break
a line are the line feed, which also stands for the other ways to write it, and the line and the
paragraph separator.
-/

namespace RackInventory.Yaml

def isBlank (c : Char) : Bool := c == ' ' || c == '\t'

def isBreak (c : Char) : Bool := c == '\n' || c == '\u2028' || c == '\u2029'

def isGap (c : Char) : Bool := isBlank c || isBreak c

/-- Whether a blank, a line break or the end follows. -/
def atGap : List Char → Bool
  | [] => true
  | c :: _ => isGap c

def isWordChar (c : Char) : Bool := c.isAlphanum || c == '_' || c == '-'

def isBracketMark (c : Char) : Bool := [',', '[', ']', '{', '}'].contains c

/-- Whether a document may hold a character. -/
def isAllowed (c : Char) : Bool :=
  let n := c.toNat
  n == 0x9 || n == 0xA || n == 0xD || (0x20 ≤ n && n ≤ 0x7E) || n == 0x85 ||
    (0xA0 ≤ n && n < 0xFFFE) || 0x10000 ≤ n

/-- The document with a line feed for each carriage return, with or without a line feed, and for each
next line character. -/
def plainBreaks : List Char → List Char
  | [] => []
  | '\r' :: '\n' :: rest => '\n' :: plainBreaks rest
  | c :: rest => (if c = '\r' ∨ c = '\x85' then '\n' else c) :: plainBreaks rest

/-- What follows a place, the lines before it, and the characters and bytes before it in its line. -/
structure Place where
  rest : List Char
  line : Nat
  column : Nat
  bytes : Nat

namespace Place

def step (p : Place) : Place :=
  match p.rest with
  | [] => p
  | c :: rest =>
    if isBreak c then ⟨rest, p.line + 1, 0, 0⟩
    else ⟨rest, p.line, p.column + 1, p.bytes + c.utf8Size⟩

def steps : Nat → Place → Place
  | 0, p => p
  | n + 1, p => steps n p.step

def stepsWhile (q : Char → Bool) (p : Place) : Place := p.steps (p.rest.takeWhile q).length

/-- The start of a document. A byte order mark there counts as a column. -/
def start (document : List Char) : Place :=
  let p : Place := ⟨document, 0, 0, 0⟩
  if document.head? = some '\uFEFF' then p.step else p

def head? (p : Place) : Option Char := p.rest.head?

def startsWith (p : Place) (s : String) : Bool := s.toList.isPrefixOf p.rest

/-- Whether three characters stand alone at the start of a line. -/
def atMark (p : Place) (mark : String) : Bool :=
  p.column == 0 && p.startsWith mark && atGap (p.rest.drop 3)

/-- Whether a document starts or ends here. -/
def atDocumentMark (p : Place) : Bool := p.atMark "---" || p.atMark "..."

def atBreak (p : Place) : Bool := p.head?.any isBreak

/-- Passes over blanks and a comment to the end of a line, and over its line break, if nothing else is
there. -/
def toNextLine? (p : Place) : Option Place :=
  let p := p.stepsWhile isBlank
  let p := if p.head? = some '#' then p.stepsWhile (!isBreak ·) else p
  if p.rest.isEmpty then some p
  else if p.atBreak then some p.step
  else none

end Place

end RackInventory.Yaml
