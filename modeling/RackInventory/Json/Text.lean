import RackInventory.Json.Reader
import RackInventory.Text.Utf8

/-!
# Texts inside quotation marks

A text runs from one quotation mark to the next one that no backslash precedes. A backslash starts
an escape; two escapes of a surrogate pair stand for one character, and a surrogate alone is
refused. Control characters must be escaped. What the bytes spell must be well-formed UTF-8.
-/

namespace RackInventory.Json

open Reader

/-- Reads four hexadecimal digits. -/
def hexDigit? (b : UInt8) : Option Nat :=
  let n := b.toNat
  if 0x30 ≤ n ∧ n ≤ 0x39 then some (n - 0x30)
  else if 0x41 ≤ n ∧ n ≤ 0x46 then some (n - 0x37)
  else if 0x61 ≤ n ∧ n ≤ 0x66 then some (n - 0x57)
  else none

/-- Reads the four digits of a hexadecimal escape. -/
def hexEscape : Reader Nat := do
  match ← get with
  | a :: b :: c :: d :: rest =>
    set rest
    match hexDigit? a, hexDigit? b, hexDigit? c, hexDigit? d with
    | some a, some b, some c, some d => pure (((a * 16 + b) * 16 + c) * 16 + d)
    | _, _, _, _ => fail .invalidEscape
  | _ => fail .endInString

def textByte : Reader Char := do
  match ← next with
  | some c => pure c
  | none => fail .endInString

/-- The character of a hexadecimal escape, whose second half follows if it is the first half of a
surrogate pair. -/
def unicodeEscape : Reader Char := do
  let n ← hexEscape
  if 0xDC00 ≤ n ∧ n ≤ 0xDFFF then fail .loneSurrogate
  else if n < 0xD800 ∨ 0xDBFF < n then pure (Char.ofNat n)
  else
    if (← textByte) ≠ '\\' then fail .endOfHexEscape
    if (← textByte) ≠ 'u' then fail .endOfHexEscape
    let low ← hexEscape
    if low < 0xDC00 ∨ 0xDFFF < low then fail .loneSurrogate
    else pure (Char.ofNat ((n - 0xD800) * 0x400 + (low - 0xDC00) + 0x10000))

def escaped : Reader Bytes := do
  match ← textByte with
  | '"' => pure [0x22]
  | '\\' => pure [0x5C]
  | '/' => pure [0x2F]
  | 'b' => pure [0x08]
  | 'f' => pure [0x0C]
  | 'n' => pure [0x0A]
  | 'r' => pure [0x0D]
  | 't' => pure [0x09]
  | 'u' => do return Utf8.encode [← unicodeEscape]
  | _ => fail .invalidEscape

/-- The bytes of a text up to its closing mark, in reverse. -/
def textBytes (reversed : Bytes) : (fuel : Nat) → Reader Bytes
  | 0 => fail .endInString
  | fuel + 1 => do
    match ← get with
    | [] => fail .endInString
    | b :: rest =>
      set rest
      if b = 0x22 then pure reversed
      else if b = 0x5C then textBytes ((← escaped).reverse ++ reversed) fuel
      else if b < 0x20 then fail .controlCharacter
      else textBytes (b :: reversed) fuel

/-- Reads a text whose opening mark has been taken. -/
def text : Reader String := do
  let bytes ← textBytes [] (← bound)
  match Utf8.toString? bytes.reverse with
  | some s => pure s
  | none => fail .invalidCodePoint

/-- Passes over an escape without asking what it stands for. -/
def skipEscape : Reader Unit := do
  match ← textByte with
  | '"' | '\\' | '/' | 'b' | 'f' | 'n' | 'r' | 't' => pure ()
  | 'u' => discard hexEscape
  | _ => fail .invalidEscape

/-- Passes over a text whose opening mark has been taken. -/
def skipTextBytes : (fuel : Nat) → Reader Unit
  | 0 => fail .endInString
  | fuel + 1 => do
    match ← next with
    | none => fail .endInString
    | some '"' => pure ()
    | some '\\' => do skipEscape; skipTextBytes fuel
    | some c => if c < ' ' then fail .controlCharacter else skipTextBytes fuel

def skipText : Reader Unit := do skipTextBytes (← bound)

end RackInventory.Json
