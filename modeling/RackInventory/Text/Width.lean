import RackInventory.Text.CharRanges
import RackInventory.Text.Width.Table

/-!
# Columns of a text on a terminal

A text takes the sum of the columns of its characters, except where characters join. A selector
after a character widens or narrows it; a skin tone, a joiner, a key cap or a tag makes one picture of
several characters, and two regional letters make a flag; and in some scripts two letters share a
column. What a character adds depends on what stands to its right, so a text is measured from its
end to its beginning.
-/

namespace RackInventory

namespace Width

/-- What stands to the right of a character and may join with it. The flag of a script letter tells
whether a joiner stands between. -/
inductive Right where
  | nothing
  | skinTone
  | flagHalf
  | flags
  | picture
  | joinedPicture
  | joinedKeyCap
  | joinedFlagHalf
  | joinedFlags (complete : Bool)
  | joinedTagLetters (count : Nat)
  | joinedTagDigits (count : Nat)
  | alef
  | lamed (joined : Bool)
  | ya (joined : Bool)
  | yaVowel
  | tifinagh (joined : Bool)
  | tifinaghJoiner
  | lisuTone
  | orkhonI (joined : Bool)
  | khmerLetter
  | kiratE
  | kiratAi
deriving DecidableEq, Repr

/-- A selector that stands to the right of a character. -/
inductive Style where
  | unasked
  | picture
  | text
  | wideQuote
deriving DecidableEq, Repr

structure State where
  right : Right
  style : Style
deriving DecidableEq, Repr

def isFlagHalf (c : Char) : Bool := 0x1F1E6 ≤ c.toNat && c.toNat ≤ 0x1F1FF

def isSkinTone (c : Char) : Bool := 0x1F3FB ≤ c.toNat && c.toNat ≤ 0x1F3FF

def isPicture (c : Char) : Bool := CharRanges.contains pictureRanges c

def isTagLetter (c : Char) : Bool := 0xE0061 ≤ c.toNat && c.toNat ≤ 0xE007A

def isTagDigit (c : Char) : Bool := 0xE0030 ≤ c.toNat && c.toNat ≤ 0xE0039

def isTifinagh (c : Char) : Bool := (0x2D31 ≤ c.toNat && c.toNat ≤ 0x2D65) || c.toNat = 0x2D6F

def isLam (c : Char) : Bool :=
  CharRanges.contains
    [(0x644, 0x644), (0x6B5, 0x6B8), (0x76A, 0x76A), (0x8A6, 0x8A6), (0x8C7, 0x8C7)] c

def isAlef (c : Char) : Bool :=
  CharRanges.contains
    [(0x622, 0x623), (0x625, 0x625), (0x627, 0x627), (0x671, 0x673), (0x675, 0x675),
      (0x773, 0x774), (0x870, 0x882)] c

/-- Letters that have a form below another letter. -/
def isKhmerLetter (c : Char) : Bool :=
  CharRanges.contains
    [(0x1780, 0x1782), (0x1784, 0x1787), (0x1789, 0x178C), (0x178E, 0x1793), (0x1795, 0x1798),
      (0x179B, 0x179D), (0x17A0, 0x17A0), (0x17A2, 0x17A2), (0x17A7, 0x17A7), (0x17AB, 0x17AC),
      (0x17AF, 0x17AF)] c

/-- Ignored marks, which do not stand in the way of a ligature. -/
def isIgnoredMark (c : Char) : Bool :=
  CharRanges.contains
    [(0x34F, 0x34F), (0x17B4, 0x17B5), (0x180B, 0x180D), (0x180F, 0x180F), (0xFE00, 0xFE0F),
      (0xE0100, 0xE01EF)] c

/-- Marks between which Arabic letters join. -/
def isBetweenArabic (c : Char) : Bool :=
  CharRanges.contains zeroRanges c && !CharRanges.contains interruptingRanges c

/-- Columns of a character that stands alone. -/
def ofChar (c : Char) : Nat :=
  if c.toNat ≤ 0xA0 then 1
  else if c.toNat = 0x17D8 then 3
  else if CharRanges.contains zeroRanges c then 0
  else if CharRanges.contains wideRanges c then 2
  else 1

def Right.ofChar (c : Char) : Right :=
  let n := c.toNat
  if n ≤ 0xA0 then .nothing
  else if n = 0x5DC then .lamed false
  else if isAlef c then .alef
  else if isKhmerLetter c then .khmerLetter
  else if n = 0x1A10 then .ya false
  else if isTifinagh c then .tifinagh false
  else if n = 0xA4FC ∨ n = 0xA4FD then .lisuTone
  else if n = 0x10C03 then .orkhonI false
  else if n = 0x16D67 then .kiratE
  else if n = 0x16D68 then .kiratAi
  else if isFlagHalf c then .flagHalf
  else if isSkinTone c then .skinTone
  else if isPicture c then .picture
  else .nothing

namespace Right

/-- Letters of a script keep their neighbours through selectors. -/
def isLetter : Right → Bool
  | .alef | .lamed _ | .ya _ | .yaVowel | .tifinagh _ | .tifinaghJoiner | .lisuTone | .orkhonI _
  | .khmerLetter => true
  | _ => false

/-- Letters that a joiner can bind to the letter before. -/
def isJoinable (r : Right) : Bool := r.isLetter && r ≠ .alef

def joined : Right → Right
  | .lamed _ => .lamed true
  | .ya _ => .ya true
  | .tifinagh _ => .tifinagh true
  | .orkhonI _ => .orkhonI true
  | r => r

def isJoinedPicture : Right → Bool
  | .joinedPicture | .joinedKeyCap => true
  | _ => false

/-- The tags that begin a subdivision's code: at least three letters, or three digits at its end. -/
def isWholeTag : Right → Bool
  | .joinedTagLetters n => 3 ≤ n
  | .joinedTagDigits n => n = 3
  | _ => false

/-- What a joined character adds, and what it is to the character before. -/
def join? : Right → Char → Option (Int × Right)
  | .alef, c =>
    if isLam c then some (0, .nothing) else if isBetweenArabic c then some (0, .alef) else none
  | .lamed true, c => if c.toNat = 0x5D0 then some (0, .nothing) else none
  | .khmerLetter, c => if c.toNat = 0x17D2 then some (-1, .nothing) else none
  | .ya true, c => if c.toNat = 0x1A17 then some (0, .yaVowel) else none
  | .yaVowel, c => if c.toNat = 0x1A15 then some (0, .nothing) else none
  | .tifinagh joined, c =>
    if c.toNat = 0x2D7F then some (1, .tifinaghJoiner)
    else if joined && isTifinagh c then some (0, .nothing)
    else none
  | .tifinaghJoiner, c => if isTifinagh c then some (-1, .nothing) else none
  | .lisuTone, c => if 0xA4F8 ≤ c.toNat ∧ c.toNat ≤ 0xA4FB then some (0, .nothing) else none
  | .orkhonI true, c => if c.toNat = 0x10C32 then some (0, .nothing) else none
  | .kiratE, c =>
    if c.toNat = 0x16D63 then some (0, .nothing)
    else if c.toNat = 0x16D67 then some (0, .kiratAi)
    else if c.toNat = 0x16D68 then some (1, .kiratE)
    else if c.toNat = 0x16D69 then some (0, .nothing)
    else none
  | .kiratAi, c => if c.toNat = 0x16D63 then some (0, .nothing) else none
  | .skinTone, c =>
    if CharRanges.contains tonedRanges c then some (0, .picture)
    else if c.toNat = 0x200D then some (0, .joinedPicture)
    else none
  | .flagHalf, c => if isFlagHalf c then some (1, .flags) else none
  | .flags, c =>
    if isFlagHalf c then some (1, .flags)
    else if c.toNat = 0x200D then some (0, .joinedPicture)
    else none
  | .picture, c => if c.toNat = 0x200D then some (0, .joinedPicture) else none
  | .joinedPicture, c =>
    if c.toNat = 0x20E3 then some (0, .joinedKeyCap)
    else if isFlagHalf c then some (1, .joinedFlagHalf)
    else if isSkinTone c then some (0, .skinTone)
    else if c.toNat = 0xE007F then some (0, .joinedTagLetters 0)
    else if isPicture c then some (0, .picture)
    else none
  | .joinedFlagHalf, c => if isFlagHalf c then some (-1, .joinedFlags true) else none
  | .joinedFlags complete, c =>
    if isFlagHalf c then some (if complete then 3 else -1, .joinedFlags (!complete))
    else if c.toNat = 0x200D then some (0, .joinedPicture)
    else none
  | .joinedTagLetters n, c =>
    if isTagLetter c && n < 6 then some (0, .joinedTagLetters (n + 1))
    else if isTagDigit c && n < 5 then some (0, .joinedTagDigits 1)
    else if c.toNat = 0x1F3F4 && isWholeTag (.joinedTagLetters n) then some (0, .picture)
    else none
  | .joinedTagDigits n, c =>
    if isTagDigit c && n < 3 then some (0, .joinedTagDigits (n + 1))
    else if c.toNat = 0x1F3F4 && isWholeTag (.joinedTagDigits n) then some (0, .picture)
    else none
  | _, _ => none

end Right

namespace State

def nothing : State := ⟨.nothing, .unasked⟩

/-- The state before a selector. Only letters, and for the picture style joined pictures, keep what
stands behind it. -/
def select (s : State) (style : Style) : State :=
  if s.right.isLetter || (style = .picture && s.right.isJoinedPicture) then ⟨s.right, style⟩
  else ⟨.nothing, style⟩

def unselect (s : State) : State :=
  if s.right.isLetter || s.style = .unasked then ⟨s.right, .unasked⟩ else nothing

end State

/-- What a character adds without regard to selectors, and the state before it. -/
def stepPlain (c : Char) (r : Right) : Int × State :=
  if r.isJoinable && c.toNat = 0x200D then (0, ⟨r.joined, .unasked⟩)
  else if r.isJoinable && isIgnoredMark c then (0, ⟨r, .unasked⟩)
  else
    match r.join? c with
    | some (n, r) => (n, ⟨r, .unasked⟩)
    | none => (ofChar c, ⟨.ofChar c, .unasked⟩)

/-- What a character adds, and the state before it. -/
def step (c : Char) (s : State) : Int × State :=
  if s.style = .picture && CharRanges.contains selectableRanges c then
    (if s.right.isJoinedPicture then 0 else 2, ⟨.picture, .unasked⟩)
  else if c.toNat ≤ 0xA0 then (1, .nothing)
  else
    let here := if s.style = .picture then s.unselect else s
    if c.toNat = 0xFE0F then (0, here.select .picture)
    else if c.toNat = 0xFE0E then (0, here.select .text)
    else if c.toNat = 0xFE01 then (0, here.select .wideQuote)
    else if here.style = .text && CharRanges.contains textStyleRanges c then (1, .nothing)
    else if here.style = .wideQuote && (['‘', '’', '“', '”'].contains c) then (2, .nothing)
    else stepPlain c here.unselect.right

def measure : List Char → Int × State
  | [] => (0, .nothing)
  | c :: rest =>
    let (n, s) := measure rest
    let (m, s) := step c s
    (m + n, s)

end Width

def columns (s : String) : Nat := (Width.measure s.toList).1.toNat

end RackInventory
