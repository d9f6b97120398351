/-!
# Blank characters

Blanks are the 25 characters with the Unicode property White_Space. The zero-width space and the
byte order mark are not among them. Trimming takes blanks from both ends and nothing from inside.
-/

namespace RackInventory

/-- The characters with the property White_Space. -/
def isBlank (c : Char) : Bool :=
  let n := c.toNat
  (0x9 ≤ n && n ≤ 0xD) || n == 0x20 || n == 0x85 || n == 0xA0 || n == 0x1680 ||
    (0x2000 ≤ n && n ≤ 0x200A) || n == 0x2028 || n == 0x2029 || n == 0x202F || n == 0x205F ||
    n == 0x3000

/-- The list without the elements that satisfy `p` at either end. -/
def trimBoth {α : Type} (p : α → Bool) (l : List α) : List α :=
  ((l.dropWhile p).reverse.dropWhile p).reverse

def trimBlanks (s : String) : String := String.ofList (trimBoth isBlank s.toList)

def isBlankText (s : String) : Bool := s.toList.all isBlank

end RackInventory
