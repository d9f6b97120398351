import RackInventory.Json.Parser
import RackInventory.Json.Skip
import RackInventory.Shape.OfJson

/-!
# Reading a text

The text is read and judged in one pass, so the first error in the document wins, whether it is one
of grammar or of content. What belongs to no field is passed over without being judged. The
difference from reading a value is in the errors and in what passed-over members may hold.
-/

namespace RackInventory

open Json Reader

/-- The error for a text that is not of the wanted form at this point. The value there is read if it
is a scalar, and an error of grammar in it wins. -/
def refuseType {α : Type} (wanted : String) : Reader α := do
  let invalid (found : Found) : Reader α := refuse (.invalidType found wanted)
  match ← peekToken with
  | none => fail .expectedValue
  | some 'n' => do advance; word ['u', 'l', 'l']; invalid .null
  | some 't' => do advance; word ['r', 'u', 'e']; invalid (.bool true)
  | some 'f' => do advance; word ['a', 'l', 's', 'e']; invalid (.bool false)
  | some '-' => do
    advance
    let n ← Numeral.read true
    invalid (Json.number n).found
  | some '"' => do
    advance
    let s ← text
    invalid (.string s)
  | some '[' => invalid .sequence
  | some '{' => invalid .map
  | some c =>
    if c.isDigit then
      let n ← Numeral.read false
      invalid (Json.number n).found
    else fail .expectedValue

/-- Takes the result of a judgement of content. -/
def judged {α : Type} : Except DecodeError α → Reader α
  | .ok a => pure a
  | .error e => refuse e

/-- Looks at the next token, which must exist. -/
def peekValue : Reader Char := do
  match ← peekToken with
  | some c => pure c
  | none => fail .endInValue

/-- One level deeper, unless that is too deep. -/
def deeper (depth : Nat) : Reader Nat :=
  if depth ≤ 1 then fail .recursionLimit else pure (depth - 1)

/-- Reads a text, in the sense of a value between quotation marks. -/
def readString (wanted : String) : Reader String := do
  if (← peekValue) = '"' then advance; text else refuseType wanted

def readNumber {α : Type} (wanted : String) (judge : Number → Except DecodeError α) : Reader α := do
  let c ← peekValue
  if c = '-' then advance; judged (judge (← Numeral.read true))
  else if c.isDigit then judged (judge (← Numeral.read false))
  else refuseType wanted

def readUnit : Reader Unit := do
  if (← peekValue) = 'n' then advance; word ['u', 'l', 'l'] else refuseType "unit"

def readChoice {α : Type} (cases : List (String × α)) (depth : Nat) : Reader α := do
  match ← peekValue with
  | '"' => judged (caseOf cases (← readString "variant identifier"))
  | '{' =>
    discard <| deeper depth
    advance
    let a ← judged (caseOf cases (← readString "variant identifier"))
    colon
    readUnit
    match ← peekToken with
    | some '}' => do advance; return a
    | some _ => fail .expectedValue
    | none => fail .endInObject
  | _ => fail .expectedValue

mutual

def Shape.read : {α : Type} → Shape α → (depth : Nat) → Reader α
  | _, .string, _ => readString "a string"
  | _, .u32, _ => readNumber "u32" numberAsU32
  | _, .u64, _ => readNumber "u64" numberAsU64
  | _, .f64, _ => readNumber "f64" fun n => .ok (numberAsDouble n)
  | _, .either name, depth => do judged (decodeEither name (← value depth))
  | _, .choice cases _ _, depth => readChoice cases depth
  | _, .list item, depth => do
    if (← peekValue) = '[' then
      let depth ← deeper depth
      advance
      items (item.read depth)
    else refuseType "a sequence"
  | _, .optional item, depth => do
    if (← peekToken) = some 'n' then
      advance
      word ['u', 'l', 'l']
      return none
    else return some (← item.read depth)
  | _, .map s f _ _, depth => do return f (← s.read depth)
  | _, .record name fields, depth => do
    match ← peekValue with
    | '[' =>
      let depth ← deeper depth
      advance
      let a ← fields.readItems name fields.size 0 depth
      endList
      return a
    | '{' =>
      let depth ← deeper depth
      advance
      let filled ← members (fun member filled => fields.readMember filled member depth) fields.empty
      judged (fields.finish filled)
    | _ => refuseType (recordTitle name)

/-- Reads the colon and the value of a member into the field with its name. -/
def Fields.readMember : {α σ : Type} → Fields α σ → σ → String → (depth : Nat) → Reader σ
  | _, _, .nil, filled, _, _ => do
    colon
    skipValue
    return filled
  | _, _, .cons field aliases shape _ rest, (a, filled), name, depth =>
    if Fields.isNamed field aliases name then
      if a.isSome then refuse (.duplicateField field)
      else do
        colon
        return (some (← shape.read depth), filled)
    else do return (a, ← rest.readMember filled name depth)

/-- Reads the items of a list into the fields in order; `index` items have been read. -/
def Fields.readItems : {α σ : Type} → Fields α σ → (record : String) → (count index : Nat) →
    (depth : Nat) → Reader α
  | _, _, .nil, _, _, _, _ => return ()
  | _, _, .cons _ _ shape absent rest, record, count, index, depth => do
    if ← moreItems (index = 0) then
      let a ← shape.read depth
      return (a, ← rest.readItems record count (index + 1) depth)
    else
      match absent with
      | some a => return (a, ← rest.readItems record count (index + 1) depth)
      | none => refuse (.invalidLength index (recordItems record count))

end

def Shape.parse {α : Type} (s : Shape α) (bytes : Bytes) : Except ReadError α :=
  runWhole (s.read depthLimit) bytes

end RackInventory
