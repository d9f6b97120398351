import RackInventory.Yaml.Scalar.Gap

/-!
# Plain texts

A text without quotes ends before a comment, a document mark, a colon with a gap behind it, a line with
too little indentation, or, in brackets, one of their marks.
-/

namespace RackInventory.Yaml

def startsPlain (inBrackets : Bool) : List Char → Bool
  | [] => false
  | c :: rest =>
    if c = '-' then !rest.head?.any isBlank
    else if c = '?' ∨ c = ':' then !inBrackets && !atGap rest
    else !(isGap c || isBracketMark c ||
      ['#', '&', '*', '!', '|', '>', '\'', '"', '%', '@', '\x60'].contains c)

/-- The part of a plain text up to a gap or its end. In brackets a colon must not stand before one of
their marks. -/
def plainWord (inBrackets : Bool) : List Char → Option (List Char)
  | [] => some []
  | c :: rest =>
    if isGap c then some []
    else if inBrackets ∧ c = ':' ∧ rest.head?.any (fun d => isBracketMark d || d == '?') then none
    else if (c = ':' ∧ atGap rest) ∨ (inBrackets ∧ isBracketMark c) then some []
    else (plainWord inBrackets rest).map (c :: ·)

/-- A plain text, and whether a line break follows it. -/
structure Plain where
  text : List Char
  crossed : Bool
  after : Place

/-- The parts of a plain text after a gap. Further lines are at column `margin` or deeper. -/
def plainParts (inBrackets : Bool) (margin : Nat) : (fuel : Nat) → (gap : List Char) → Place →
    Option Plain
  | 0, _, _ => none
  | fuel + 1, gap, p =>
    if p.atDocumentMark ∨ p.head? = some '#' then some ⟨[], gap.any isBreak, p⟩
    else do
      let word ← plainWord inBrackets p.rest
      let p := p.steps word.length
      let text := if word.isEmpty then [] else Gap.text gap ++ word
      let next := p.rest.takeWhile isGap
      if next.isEmpty then return ⟨text, word.isEmpty && gap.any isBreak, p⟩
      if Gap.tabBefore margin none next then none
      else
        let p := p.stepsWhile isGap
        if !inBrackets ∧ p.column < margin then return ⟨text, next.any isBreak, p⟩
        else
          let more ← plainParts inBrackets margin fuel next p
          return { more with text := text ++ more.text }

def plain (inBrackets : Bool) (margin : Nat) (p : Place) : Option Plain :=
  plainParts inBrackets margin (p.rest.length + 1) [] p

end RackInventory.Yaml
