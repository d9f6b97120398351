import RackInventory.Url.Form

/-!
# Patterns of paths

A segment of a pattern is a text, or a text and a parameter: a name in braces that stands for the rest
of a segment, which must not be empty. A brace that is part of a text is written twice.
-/

namespace RackInventory

/-- How a segment of a path starts and, where anything may follow, the name of that. -/
structure SegmentPattern where
  start : List Char
  parameter : Option (List Char)
deriving DecidableEq

namespace SegmentPattern

/-- The name of a parameter, up to the brace at the end of its segment. -/
def name? : List Char → Option (List Char)
  | [] => none
  | ['}'] => some []
  | '}' :: '}' :: rest => (name? rest).map ('}' :: ·)
  | '{' :: '{' :: rest => (name? rest).map ('{' :: ·)
  | c :: rest => if c = '}' ∨ c = '*' then none else (name? rest).map (c :: ·)

def withFirst (c : Char) (p : SegmentPattern) : SegmentPattern := { p with start := c :: p.start }

/-- The part of a pattern after its first character, if that has no meaning of its own. -/
def ofRest? : List Char → Option SegmentPattern
  | [] => some ⟨[], none⟩
  | '{' :: '{' :: rest => (ofRest? rest).map (withFirst '{')
  | '}' :: '}' :: rest => (ofRest? rest).map (withFirst '}')
  | '{' :: rest => do
    let name ← name? rest
    if name.isEmpty then none else some ⟨[], some name⟩
  | c :: rest => if c = '}' then none else (ofRest? rest).map (withFirst c)

/-- The pattern that a text stands for. It does not start with a colon or an asterisk. -/
def ofChars? (s : List Char) : Option SegmentPattern :=
  if s.head? = some ':' ∨ s.head? = some '*' then none else ofRest? s

/-- What the parameters of a pattern stand for in a segment, if it fits. -/
def match? (p : SegmentPattern) (segment : List Char) : Option (List (List Char × List Char)) :=
  match p.start.isPrefixOf? segment, p.parameter with
  | some [], none => some []
  | some (c :: rest), some name => some [(name, c :: rest)]
  | _, _ => none

end SegmentPattern

abbrev PathPattern := List SegmentPattern

namespace PathPattern

/-- The pattern that a text stands for; an empty one has no segments. -/
def ofString? (s : String) : Option PathPattern :=
  if s.isEmpty then some [] else (Form.split '/' s.toList).mapM SegmentPattern.ofChars?

/-- What the parameters of a pattern stand for in the first segments of a path, and the others. -/
def match? : PathPattern → List (List Char) →
    Option (List (List Char × List Char) × List (List Char))
  | [], segments => some ([], segments)
  | _ :: _, [] => none
  | p :: pattern, segment :: segments => do
    let here ← p.match? segment
    let (more, rest) ← match? pattern segments
    return (here ++ more, rest)

end PathPattern

end RackInventory
