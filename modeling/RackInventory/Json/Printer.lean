import RackInventory.Json.Basic
import RackInventory.Decimal.Written

/-!
# From a value to text

The compact form: no white space, members in the order of the object, quotation marks, backslashes
and control characters escaped, all else as it is.
-/

namespace RackInventory.Json

def escapeChar (c : Char) : List Char :=
  if c = '"' then ['\\', '"']
  else if c = '\\' then ['\\', '\\']
  else if c = '\n' then ['\\', 'n']
  else if c = '\r' then ['\\', 'r']
  else if c = '\t' then ['\\', 't']
  else if c.toNat = 0x08 then ['\\', 'b']
  else if c.toNat = 0x0C then ['\\', 'f']
  else if c.toNat < 0x20 then
    ['\\', 'u', '0', '0', Nat.digitChar (c.toNat / 16), Nat.digitChar (c.toNat % 16)]
  else [c]

def printString (s : String) : List Char := '"' :: s.toList.flatMap escapeChar ++ ['"']

def printNumber : Number → List Char
  | .integer n => (toString n).toList
  | .float x => (documentNumber x).toList

mutual

def print : Json → List Char
  | .null => ['n', 'u', 'l', 'l']
  | .bool true => ['t', 'r', 'u', 'e']
  | .bool false => ['f', 'a', 'l', 's', 'e']
  | .number n => printNumber n
  | .string s => printString s
  | .array items => '[' :: printItems items ++ [']']
  | .object members => '{' :: printMembers members ++ ['}']

def printItems : List Json → List Char
  | [] => []
  | [a] => print a
  | a :: b :: rest => print a ++ ',' :: printItems (b :: rest)

def printMembers : List (String × Json) → List Char
  | [] => []
  | [(name, a)] => printString name ++ ':' :: print a
  | (name, a) :: b :: rest => printString name ++ ':' :: print a ++ ',' :: printMembers (b :: rest)

end

def render (j : Json) : String := String.ofList j.print

end RackInventory.Json
