import RackInventory.Json.Collection

/-!
# From text to a value

A value nests at most 127 deep. An object keeps its names in ascending order; of members with the
same name the last one counts.
-/

namespace RackInventory.Json

open Reader

/-- The nesting of lists and objects that is refused. -/
def depthLimit : Nat := 128

/-- Reads a value; `depth` levels are left, the last of which is refused. -/
def value : (depth : Nat) → Reader Json
  | 0 => fail .recursionLimit
  | depth + 1 => do
    match ← peekToken with
    | none => fail .endInValue
    | some 'n' => do advance; word ['u', 'l', 'l']; return .null
    | some 't' => do advance; word ['r', 'u', 'e']; return .bool true
    | some 'f' => do advance; word ['a', 'l', 's', 'e']; return .bool false
    | some '-' => do advance; return .number (← Numeral.read true)
    | some '"' => do advance; return .string (← text)
    | some '[' =>
      if depth = 0 then fail .recursionLimit
      advance
      return .array (← items (value depth))
    | some '{' =>
      if depth = 0 then fail .recursionLimit
      advance
      return .object (← members (fun name all => do colon; return setMember name (← value depth) all) [])
    | some c => if c.isDigit then return .number (← Numeral.read false) else fail .expectedValue

def parse (bytes : Bytes) : Except ReadError Json := runWhole (value depthLimit) bytes

end RackInventory.Json
