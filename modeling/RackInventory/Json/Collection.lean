import RackInventory.Json.Numeral
import RackInventory.Json.Text

/-!
# Reading lists and objects

The items of a list and the members of an object are read one after the other and folded into a
state. The reader of an item is a parameter, so the same walk serves values of any kind. Each item
takes at least one byte, which bounds the walk.
-/

namespace RackInventory.Json

open Reader

/-- Whether another item follows in a list whose opening bracket has been taken. -/
def moreItems (first : Bool) : Reader Bool := do
  match ← peekToken with
  | none => fail .endInList
  | some ']' => pure false
  | some ',' =>
    if first then pure true
    else
      advance
      match ← peekToken with
      | some ']' => fail .trailingComma
      | some _ => pure true
      | none => fail .endInValue
  | some _ => if first then pure true else fail .expectedListCommaOrEnd

/-- Whether another member follows in an object whose opening bracket has been taken; its name
comes next. -/
def moreMembers (first : Bool) : Reader Bool := do
  match ← peekToken with
  | none => fail .endInObject
  | some '}' => pure false
  | some ',' =>
    if first then fail .keyMustBeString
    else
      advance
      match ← peekToken with
      | some '"' => pure true
      | some '}' => fail .trailingComma
      | some _ => fail .keyMustBeString
      | none => fail .endInValue
  | some '"' => if first then pure true else fail .expectedObjectCommaOrEnd
  | some _ => if first then fail .keyMustBeString else fail .expectedObjectCommaOrEnd

def endList : Reader Unit := do
  match ← peekToken with
  | some ']' => advance
  | some ',' =>
    advance
    match ← peekToken with
    | some ']' => fail .trailingComma
    | _ => fail .trailingCharacters
  | some _ => fail .trailingCharacters
  | none => fail .endInList

def endObject : Reader Unit := do
  match ← peekToken with
  | some '}' => advance
  | some ',' => fail .trailingComma
  | some _ => fail .trailingCharacters
  | none => fail .endInObject

def itemsFrom {α : Type} (item : Reader α) (first : Bool) : (fuel : Nat) → Reader (List α)
  | 0 => fail .endInList
  | fuel + 1 => do
    if ← moreItems first then
      let a ← item
      return a :: (← itemsFrom item false fuel)
    else return []

/-- Reads a list whose opening bracket has been taken, and its closing bracket. -/
def items {α : Type} (item : Reader α) : Reader (List α) := do
  let all ← itemsFrom item true (← bound)
  endList
  return all

/-- Reads the members up to the closing bracket; `member` reads the colon and the value. -/
def membersFrom {σ : Type} (member : String → σ → Reader σ) (first : Bool) (state : σ) :
    (fuel : Nat) → Reader σ
  | 0 => fail .endInObject
  | fuel + 1 => do
    if ← moreMembers first then
      advance
      let name ← text
      membersFrom member false (← member name state) fuel
    else return state

/-- Reads an object whose opening bracket has been taken, and its closing bracket. -/
def members {σ : Type} (member : String → σ → Reader σ) (state : σ) : Reader σ := do
  let final ← membersFrom member true state (← bound)
  endObject
  return final

end RackInventory.Json
