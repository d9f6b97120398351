/-!
# JSON values

A value is a tree. An object is a list of named members in the order in which they are read or
written; `Json.object` values built by the parser have their names in ascending order, each once.
A number is either an integer, kept exactly, or a double: `1` and `1.0` are different numbers.
-/

namespace RackInventory

/-- An integer, or a double. -/
inductive Json.Number where
  | integer (n : Int)
  | float (x : Float)
deriving DecidableEq

inductive Json where
  | null
  | bool (b : Bool)
  | number (n : Json.Number)
  | string (s : String)
  | array (items : List Json)
  | object (members : List (String × Json))

namespace Json

instance : Inhabited Json := ⟨.null⟩

abbrev Members := List (String × Json)

def int (n : Int) : Json := .number (.integer n)

def nat (n : Nat) : Json := .number (.integer n)

def float (x : Float) : Json := .number (.float x)

def ofOption {α : Type} (f : α → Json) : Option α → Json
  | none => .null
  | some a => f a

def strings (l : List String) : Json := .array (l.map .string)

def member? (name : String) : Json → Option Json
  | .object members => members.lookup name
  | _ => none

/-- Sets a member, keeping the names in ascending order and each once. -/
def setMember (name : String) (value : Json) : Members → Members
  | [] => [(name, value)]
  | (n, v) :: rest =>
    if name < n then (name, value) :: (n, v) :: rest
    else if n < name then (n, v) :: setMember name value rest
    else (name, value) :: rest

end Json

end RackInventory
