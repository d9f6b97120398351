import RackInventory.Json.Error
import RackInventory.Text.Utf8

/-!
# Reading bytes from the front

A reader consumes bytes from the front of what is left, and either answers or fails. The bytes of
structure are ASCII, so the next byte is looked at as the character with that code; the bytes
above 0x7F are never taken for structure.
-/

namespace RackInventory.Json

/-- A step that reads from the front of the bytes that are left. -/
abbrev Reader (α : Type) := StateT Bytes (Except ReadError) α

namespace Reader

def fail {α : Type} (cause : SyntaxError) : Reader α := throw (.malformed cause)

def refuse {α : Type} (cause : DecodeError) : Reader α := throw (.data cause)

/-- The character with the code of a byte. -/
def asChar (b : UInt8) : Char := Char.ofNat b.toNat

def peek : Reader (Option Char) := do return (← get).head?.map asChar

def advance : Reader Unit := modify List.tail

/-- Takes one byte, if there is one. -/
def next : Reader (Option Char) := do
  let c ← peek
  advance
  return c

def isSpace (b : UInt8) : Bool := b == 0x20 || b == 0x0A || b == 0x09 || b == 0x0D

/-- Passes over white space and looks at what follows. -/
def peekToken : Reader (Option Char) := do
  modify (·.dropWhile isSpace)
  peek

/-- A number of steps that the bytes left cannot exceed. -/
def bound : Reader Nat := do return (← get).length + 1

def isDigit (b : UInt8) : Bool := 0x30 ≤ b && b ≤ 0x39

def takeDigits : Reader (List Nat) := do
  let bytes ← get
  set (bytes.dropWhile isDigit)
  return (bytes.takeWhile isDigit).map fun b => b.toNat - 0x30

/-- Reads the rest of a word whose first letter has been taken. -/
def word : List Char → Reader Unit
  | [] => pure ()
  | c :: rest => do
    match ← next with
    | none => fail .endInValue
    | some d => if d = c then word rest else fail .expectedIdent

def colon : Reader Unit := do
  match ← peekToken with
  | some ':' => advance
  | some _ => fail .expectedColon
  | none => fail .endInObject

/-- Runs a reader on a whole document: nothing but white space may follow. -/
def runWhole {α : Type} (r : Reader α) (bytes : Bytes) : Except ReadError α := do
  let (a, rest) ← r.run bytes
  if (rest.dropWhile isSpace).isEmpty then .ok a else .error (.malformed .trailingCharacters)

end Reader

end RackInventory.Json
