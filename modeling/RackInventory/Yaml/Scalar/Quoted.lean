import RackInventory.Yaml.Scalar.Gap

/-!
# Texts in quotes

In single quotes a quote is written twice. In double quotes a backslash starts an escape; before a line
break it stands for nothing, and neither does the line break.
-/

namespace RackInventory.Yaml

def hexValue (digits : List Char) : Option Nat :=
  digits.foldlM (fun n c =>
    if '0' ≤ c ∧ c ≤ '9' then some (n * 16 + (c.toNat - 48))
    else if 'A' ≤ c ∧ c ≤ 'F' then some (n * 16 + (c.toNat - 55))
    else if 'a' ≤ c ∧ c ≤ 'f' then some (n * 16 + (c.toNat - 87))
    else none) 0

/-- The characters that have an escape of one character. -/
def shortEscapes : List (Char × Char) :=
  [('0', '\x00'), ('a', '\x07'), ('b', '\x08'), ('t', '\t'), ('\t', '\t'), ('n', '\n'),
    ('v', '\x0b'), ('f', '\x0c'), ('r', '\r'), ('e', '\x1b'), (' ', ' '), ('"', '"'), ('/', '/'),
    ('\\', '\\'), ('N', '\x85'), ('_', '\xa0'), ('L', '\u2028'), ('P', '\u2029')]

def codeDigits (c : Char) : Option Nat := [('x', 2), ('u', 4), ('U', 8)].lookup c

/-- The character that an escape stands for, and the length of what follows its backslash. -/
def escaped : List Char → Option (Char × Nat)
  | [] => none
  | c :: rest =>
    match codeDigits c with
    | none => (shortEscapes.lookup c).map (·, 1)
    | some digits => do
      let n ← if (rest.take digits).length = digits then hexValue (rest.take digits) else none
      if n.isValidChar then some (Char.ofNat n, digits + 1) else none

/-- How the part of a quoted text up to a gap ends. -/
inductive WordEnd where
  | plain
  | brokenLine

/-- The part of a text in single quotes up to a gap or the closing quote. -/
def singleWord : (fuel : Nat) → Place → List Char × Place
  | 0, p => ([], p)
  | fuel + 1, p =>
    match p.rest with
    | '\'' :: '\'' :: _ =>
      let (word, p) := singleWord fuel (p.steps 2)
      ('\'' :: word, p)
    | [] => ([], p)
    | c :: _ =>
      if c = '\'' ∨ isGap c then ([], p)
      else
        let (word, p) := singleWord fuel p.step
        (c :: word, p)

/-- The part of a text in double quotes up to a gap, the closing quote or an escaped line break. -/
def doubleWord : (fuel : Nat) → Place → Option (List Char × WordEnd × Place)
  | 0, _ => none
  | fuel + 1, p =>
    match p.rest with
    | [] => some ([], .plain, p)
    | '\\' :: rest =>
      if rest.head?.any isBreak then some ([], .brokenLine, p.steps 2)
      else do
        let (c, n) ← escaped rest
        let (word, atEnd, p) ← doubleWord fuel (p.steps (n + 1))
        return (c :: word, atEnd, p)
    | c :: _ =>
      if c = '"' ∨ isGap c then some ([], .plain, p)
      else do
        let (word, atEnd, p) ← doubleWord fuel p.step
        return (c :: word, atEnd, p)

/-- The rest of a quoted text. A document mark must not stand in it. -/
def quotedParts (quote : Char) : (fuel : Nat) → Place → Option (List Char × Place)
  | 0, _ => none
  | fuel + 1, p =>
    if p.atDocumentMark ∨ p.rest.isEmpty then none
    else do
      let (word, atEnd, p) ←
        if quote = '\'' then
          let (word, p) := singleWord (p.rest.length + 1) p
          some (word, .plain, p)
        else doubleWord (p.rest.length + 1) p
      if p.head? = some quote then return (word, p.step)
      let gap := p.rest.takeWhile isGap
      let between := match atEnd with
        | .plain => Gap.text gap
        | .brokenLine => gap.filter isBreak
      let (more, p) ← quotedParts quote fuel (p.stepsWhile isGap)
      return (word ++ between ++ more, p)

def quotedText (quote : Char) (p : Place) : Option (List Char × Place) :=
  quotedParts quote (p.rest.length + 1) p

end RackInventory.Yaml
