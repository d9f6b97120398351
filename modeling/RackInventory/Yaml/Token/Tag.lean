import RackInventory.Yaml.Scalar.Quoted
import RackInventory.Yaml.Token.Basic

/-!
# Names, tags and directives

A tag is a handle and the rest of an address, or an address in angle brackets. A directive at the start
of a document gives the version of the language or declares a handle.
-/

namespace RackInventory.Yaml

def anchorName (p : Place) : Option (List Char × Place) :=
  let name := p.step.rest.takeWhile isWordChar
  let after := p.step.steps name.length
  let ends := atGap after.rest || after.head?.any ['?', ':', ',', ']', '}', '%', '@', '\x60'].contains
  if name.isEmpty ∨ !ends then none else some (name, after)

/-- Whether a character stands for itself in an address. Those of lists do in angle brackets and in
directives. -/
def isAddressChar (verbatim : Bool) (c : Char) : Bool :=
  isWordChar c ||
    [';', '/', '?', ':', '@', '&', '=', '+', '$', '.', '!', '~', '*', '\'', '(', ')'].contains c ||
    (verbatim && [',', '[', ']'].contains c)

def escapedByte (p : Place) : Option Nat :=
  match p.rest with
  | '%' :: a :: b :: _ => hexValue [a, b]
  | _ => none

/-- How many bytes the encoding of a character has that starts with a byte. -/
def encodedLength (lead : Nat) : Option Nat :=
  if lead < 0x80 then some 1
  else if 0xC0 ≤ lead ∧ lead < 0xE0 then some 2
  else if 0xE0 ≤ lead ∧ lead < 0xF0 then some 3
  else if 0xF0 ≤ lead ∧ lead < 0xF8 then some 4
  else none

/-- Passes over the escapes of the later bytes of a character. -/
def escapedTail : (count : Nat) → Place → Option Place
  | 0, p => some p
  | count + 1, p => do
    let b ← escapedByte p
    if 0x80 ≤ b ∧ b < 0xC0 then escapedTail count (p.steps 3) else none

def address (verbatim : Bool) : (fuel : Nat) → Place → Option Place
  | 0, _ => none
  | fuel + 1, p =>
    match p.rest with
    | [] => some p
    | c :: _ =>
      if c = '%' then do
        let n ← encodedLength (← escapedByte p)
        address verbatim fuel (← escapedTail (n - 1) (p.steps 3))
      else if isAddressChar verbatim c then address verbatim fuel p.step
      else some p

/-- Passes over an address, which must not be empty. -/
def someAddress (verbatim : Bool) (p : Place) : Option Place := do
  let after ← address verbatim (p.rest.length + 1) p
  if after.rest.length < p.rest.length then some after else none

/-- What can be a handle: an exclamation mark, and perhaps a name and another mark. -/
def handleText (p : Place) : List Char :=
  let name := p.step.rest.takeWhile isWordChar
  '!' :: name ++ (p.step.rest.drop name.length).takeWhile (· = '!') |>.take (name.length + 2)

/-- The handle of the tag that starts here. An address in angle brackets, and a mark alone, have
none. -/
def tagHandle (inBrackets : Bool) (p : Place) : Option (List Char × Place) := do
  let (handle, after) ←
    if p.step.head? = some '<' then do
      let after ← someAddress true (p.steps 2)
      if after.head? = some '>' then some ([], after.step) else none
    else
      let handle := handleText p
      if 1 < handle.length ∧ handle.getLast? = some '!' then do
        return (handle, ← someAddress false (p.steps handle.length))
      else do
        let after ← address false (p.rest.length + 1) p.step
        return (if after.rest.length < p.step.rest.length then ['!'] else [], after)
  if atGap after.rest ∨ (inBrackets ∧ after.head? = some ',') then some (handle, after) else none

def versionPart (p : Place) : Option (Nat × Place) :=
  let digits := p.rest.takeWhile (·.isDigit)
  if digits.isEmpty ∨ 9 < digits.length then none
  else some (digits.foldl (fun n c => n * 10 + (c.toNat - 48)) 0, p.steps digits.length)

def version (p : Place) : Option (Token × Place) := do
  let (major, p) ← versionPart p
  if p.head? = some '.' then
    let (minor, p) ← versionPart p.step
    return (.version major minor, p)
  else none

def declaredHandle (p : Place) : Option (Token × Place) := do
  if p.head? = some '!' then
    let handle := handleText p
    let p := p.steps handle.length
    if (1 < handle.length ∧ handle.getLast? ≠ some '!') ∨ !p.head?.any isBlank then none
    else
      let p ← someAddress true (p.stepsWhile isBlank)
      if atGap p.rest then return (.handle handle, p) else none
  else none

/-- The directive of a line that starts with a percent sign. -/
def directive (p : Place) : Option (Token × Place) := do
  let name := p.step.rest.takeWhile isWordChar
  let p := p.step.steps name.length
  if !atGap p.rest then none
  else
    let p := p.stepsWhile isBlank
    let (token, p) ←
      if name = ['Y', 'A', 'M', 'L'] then version p
      else if name = ['T', 'A', 'G'] then declaredHandle p
      else none
    return (token, ← p.toNextLine?)

end RackInventory.Yaml
