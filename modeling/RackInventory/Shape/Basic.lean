import RackInventory.Json.Error
import RackInventory.Json.Basic

/-!
# Descriptions of document types

A shape says once how the values of a type are written in documents. Reading a value, reading a
text and writing a value all follow the same description, so what one of them accepts or produces
can be compared with the others by cases on the description.

A record is a list of named fields. The index `σ` of `Fields` is the type of its partially filled
form, in which each field may still be missing. A field with a value for its absence may be left
out; the others are required.
-/

namespace RackInventory

open Json

mutual

/-- How the values of a type are written. -/
inductive Shape : Type → Type 1 where
  /-- A text. -/
  | string : Shape String
  /-- An integer of 32 bits without sign. -/
  | u32 : Shape UInt32
  /-- An integer of 64 bits without sign. -/
  | u64 : Shape UInt64
  /-- A double; integers are accepted. -/
  | f64 : Shape Float
  /-- An integer of 64 bits or a text, told apart by the form of the value. -/
  | either (name : String) : Shape (UInt64 ⊕ String)
  /-- One of finitely many names. -/
  | choice {α : Type} (cases : List (String × α)) (nameOf : α → String)
      (law : ∀ a, cases.lookup (nameOf a) = some a) : Shape α
  /-- A list. -/
  | list {α : Type} (item : Shape α) : Shape (List α)
  /-- A value or null. -/
  | optional {α : Type} (item : Shape α) : Shape (Option α)
  /-- A type written as the values of another type are. -/
  | map {α β : Type} (s : Shape α) (f : α → β) (g : β → α) (law : ∀ b, f (g b) = b) : Shape β
  /-- A record with the given fields. -/
  | record {α σ : Type} (name : String) (fields : Fields α σ) : Shape α

/-- The fields of a record, in order of declaration. -/
inductive Fields : Type → Type → Type 1 where
  | nil : Fields Unit Unit
  | cons {α β σ : Type} (name : String) (aliases : List String) (shape : Shape α)
      (absent : Option α) (rest : Fields β σ) : Fields (α × β) (Option α × σ)

end

namespace Shape

def listOrNull {α : Type} (item : Shape α) : Shape (List α) :=
  .map (.optional (.list item)) (·.getD []) some fun _ => rfl

end Shape

namespace Fields

variable {α β σ : Type}

def required (name : String) (shape : Shape α) (rest : Fields β σ) : Fields (α × β) (Option α × σ) :=
  .cons name [] shape none rest

/-- A field that may be absent or null. -/
def optional (name : String) (shape : Shape α) (rest : Fields β σ) :
    Fields (Option α × β) (Option (Option α) × σ) :=
  .cons name [] (.optional shape) (some none) rest

/-- A list that may be absent or null when it is empty. -/
def lenient (name : String) (item : Shape α) (rest : Fields β σ) :
    Fields (List α × β) (Option (List α) × σ) :=
  .cons name [] (.listOrNull item) (some []) rest

/-- A field that may be absent, but not null. -/
def orElse (name : String) (shape : Shape α) (value : α) (rest : Fields β σ) :
    Fields (α × β) (Option α × σ) :=
  .cons name [] shape (some value) rest

def empty : {α σ : Type} → Fields α σ → σ
  | _, _, .nil => ()
  | _, _, .cons _ _ _ _ rest => (none, rest.empty)

def size : {α σ : Type} → Fields α σ → Nat
  | _, _, .nil => 0
  | _, _, .cons _ _ _ _ rest => rest.size + 1

/-- Whether a name is that of a field, or another name of it. -/
def isNamed (field : String) (aliases : List String) (name : String) : Bool :=
  name == field || aliases.contains name

/-- The value of a partially filled form; the first missing field without a value for its absence
is an error. -/
def finish : {α σ : Type} → Fields α σ → σ → Except DecodeError α
  | _, _, .nil, _ => .ok ()
  | _, _, .cons name _ _ absent rest, (a, filled) =>
    match a.or absent with
    | some a => do return (a, ← rest.finish filled)
    | none => .error (.missingField name)

end Fields

/-- What messages call a record. -/
def recordTitle (name : String) : String := "struct " ++ name

/-- What messages call the items of a record that is written as a list. -/
def recordItems (name : String) (count : Nat) : String :=
  recordTitle name ++ " with " ++ toString count ++ (if count = 1 then " element" else " elements")

def doubleOfInt (n : Int) : Float :=
  if n < 0 then -(UInt64.ofNat n.natAbs).toFloat else (UInt64.ofNat n.natAbs).toFloat

/-- An integer of fewer than `bits` bits without sign. -/
def numberAsNat (wanted : String) (bits : Nat) : Number → Except DecodeError Nat
  | .integer n =>
    if 0 ≤ n ∧ n < Nat.pow 2 bits then .ok n.toNat else .error (.invalidValue (.integer n) wanted)
  | .float x => .error (.invalidType (.float x) wanted)

def numberAsU32 (n : Number) : Except DecodeError UInt32 :=
  (numberAsNat "u32" 32 n).map UInt32.ofNat

def numberAsU64 (n : Number) : Except DecodeError UInt64 :=
  (numberAsNat "u64" 64 n).map UInt64.ofNat

def numberAsDouble : Number → Float
  | .integer n => doubleOfInt n
  | .float x => x

mutual

def Shape.encode : {α : Type} → Shape α → α → Json
  | _, .string, s => .string s
  | _, .u32, n => .nat n.toNat
  | _, .u64, n => .nat n.toNat
  | _, .f64, x => .float x
  | _, .either _, .inl n => .nat n.toNat
  | _, .either _, .inr s => .string s
  | _, .choice _ nameOf _, a => .string (nameOf a)
  | _, .list item, l => .array (l.map fun a => item.encode a)
  | _, .optional _, none => .null
  | _, .optional item, some a => item.encode a
  | _, .map s _ g _, b => s.encode (g b)
  | _, .record _ fields, a => .object (fields.encode a)

def Fields.encode : {α σ : Type} → Fields α σ → α → Json.Members
  | _, _, .nil, _ => []
  | _, _, .cons name _ shape _ rest, (a, b) => (name, shape.encode a) :: rest.encode b

end

end RackInventory
