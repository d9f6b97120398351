import RackInventory.Url.Percent

/-!
# Query strings of name and value pairs

Letters, digits and four punctuation marks stand for themselves, a blank is written as a plus sign
and every other byte is escaped. Reading back undoes this for every text; it also accepts escapes
that writing does not produce, and replaces ill-formed bytes.
-/

namespace RackInventory.Form

/-- The characters that stand for themselves. -/
def plain (c : Char) : Bool := c.isAlphanum || ['*', '-', '.', '_'].contains c

/-- A byte of a name or a value. -/
def encodeByte (b : UInt8) : List Char :=
  if b = 0x20 then ['+'] else Percent.encodeByte (fun c => !plain c) b

def encode (s : List Char) : List Char := (Utf8.encode s).flatMap encodeByte

def pair (name value : String) : String :=
  String.ofList (encode name.toList ++ '=' :: encode value.toList)

def decode (s : List Char) : List Char :=
  Utf8.decodeLossy (Percent.decode (s.map fun c => if c = '+' then ' ' else c))

/-- Cuts a list at the first `c`; the second part is empty when there is none. -/
def cut (c : Char) (s : List Char) : List Char × List Char :=
  (s.takeWhile (· ≠ c), (s.dropWhile (· ≠ c)).drop 1)

/-- The parts between `c`, at least one. -/
def split (c : Char) : List Char → List (List Char)
  | [] => [[]]
  | d :: rest =>
    if d = c then [] :: split c rest
    else match split c rest with
      | [] => [[d]]
      | part :: parts => (d :: part) :: parts

def pairs (query : String) : List (String × String) :=
  ((split '&' query.toList).filter (!·.isEmpty)).map fun part =>
    let (name, value) := cut '=' part
    (String.ofList (decode name), String.ofList (decode value))

end RackInventory.Form
