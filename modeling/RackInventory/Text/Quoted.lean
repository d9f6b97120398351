import RackInventory.Text.CharRanges
import RackInventory.Text.Quoted.Table

/-!
# Texts in quotation marks

The form in which messages show a text: between double quotes, with a backslash before quotes and
backslashes, short escapes for the line breaks, the tab and the null character, and a hexadecimal
escape for every other character that has no printed form or that would attach to its neighbour.
-/

namespace RackInventory

namespace Quoted

def codeEscape (c : Char) : List Char := ['\\', 'u', '\x7b'] ++ Nat.toDigits 16 c.toNat ++ ['\x7d']

def needsCode (c : Char) : Bool :=
  if c.toNat < 0x7F then c.toNat < 0x20
  else CharRanges.contains extendingRanges c || CharRanges.contains unprintedRanges c

def escape (c : Char) : List Char :=
  if c = '"' then ['\\', '"']
  else if c = '\\' then ['\\', '\\']
  else if c = '\n' then ['\\', 'n']
  else if c = '\r' then ['\\', 'r']
  else if c = '\t' then ['\\', 't']
  else if c.toNat = 0 then ['\\', '0']
  else if needsCode c then codeEscape c
  else [c]

end Quoted

def quoted (s : String) : String :=
  String.ofList ('"' :: s.toList.flatMap Quoted.escape ++ ['"'])

end RackInventory
