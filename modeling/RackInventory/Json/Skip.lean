import RackInventory.Json.Numeral
import RackInventory.Json.Text

/-!
# Passing over a value

A value that nobody asks for is checked for its grammar and nothing more: numbers of any size, any
escape with four hexadecimal digits, bytes of any encoding and nesting of any depth pass. The open
brackets are kept on a stack.
-/

namespace RackInventory.Json

open Reader

inductive Bracket where
  | list
  | object
deriving DecidableEq

def skipName : Reader Unit := do
  match ← peekToken with
  | some '"' => do advance; skipText; colon
  | some _ => fail .keyMustBeString
  | none => fail .endInObject

/-- Passes over a word whose first letter is next. -/
def skipWord (rest : List Char) : Reader Unit := do advance; word rest

/-- Goes on before a value, or after one, with the given brackets open. -/
def skipFrom (beforeValue : Bool) (stack : List Bracket) : (fuel : Nat) → Reader Unit
  | 0 => fail .endInValue
  | fuel + 1 =>
    if beforeValue then do
      match ← peekToken with
      | none => fail .endInValue
      | some 'n' => do skipWord ['u', 'l', 'l']; skipFrom false stack fuel
      | some 't' => do skipWord ['r', 'u', 'e']; skipFrom false stack fuel
      | some 'f' => do skipWord ['a', 'l', 's', 'e']; skipFrom false stack fuel
      | some '-' => do advance; Numeral.skip; skipFrom false stack fuel
      | some '"' => do advance; skipText; skipFrom false stack fuel
      | some '[' =>
        advance
        match ← peekToken with
        | some ']' => do advance; skipFrom false stack fuel
        | some _ => skipFrom true (.list :: stack) fuel
        | none => fail .endInList
      | some '{' =>
        advance
        match ← peekToken with
        | some '}' => do advance; skipFrom false stack fuel
        | some _ => do skipName; skipFrom true (.object :: stack) fuel
        | none => fail .endInObject
      | some c => if c.isDigit then do Numeral.skip; skipFrom false stack fuel else fail .expectedValue
    else
      match stack with
      | [] => pure ()
      | .list :: outer => do
        match ← peekToken with
        | some ',' => do advance; skipFrom true stack fuel
        | some ']' => do advance; skipFrom false outer fuel
        | some _ => fail .expectedListCommaOrEnd
        | none => fail .endInList
      | .object :: outer => do
        match ← peekToken with
        | some ',' => do advance; skipName; skipFrom true stack fuel
        | some '}' => do advance; skipFrom false outer fuel
        | some _ => fail .expectedObjectCommaOrEnd
        | none => fail .endInObject

/-- Passes over one value. Each value and each bracket takes a byte, so twice the number of bytes
left bounds the steps. -/
def skipValue : Reader Unit := do skipFrom true [] (2 * (← bound))

end RackInventory.Json
