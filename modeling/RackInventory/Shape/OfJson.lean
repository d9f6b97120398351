import RackInventory.Shape.Basic

/-!
# Reading a value

A record is read from an object or from a list. The members of an object are taken in their order
and the first error wins; names that are no field are passed over, and a field that is given twice
is an error. The items of a list go to the fields in order of declaration. Missing fields are
looked for last.
-/

namespace RackInventory

open Json

/-- What a value is, in messages. -/
def Json.found : Json → Found
  | .null => .null
  | .bool b => .bool b
  | .number (.integer n) => .integer n
  | .number (.float x) => .float x
  | .string s => .string s
  | .array _ => .sequence
  | .object _ => .map

def wrongType {α : Type} (j : Json) (wanted : String) : Except DecodeError α :=
  .error (.invalidType j.found wanted)

/-- The names of a closed choice, and what each stands for. -/
def caseOf {α : Type} (cases : List (String × α)) (name : String) : Except DecodeError α :=
  match cases.lookup name with
  | some a => .ok a
  | none => .error (.unknownVariant name (cases.map (·.1)))

/-- A choice is a name, or an object whose only member has that name and is null. -/
def decodeChoice {α : Type} (cases : List (String × α)) : Json → Except DecodeError α
  | .string s => caseOf cases s
  | .object [(name, value)] => do
    let a ← caseOf cases name
    match value with
    | .null => return a
    | _ => wrongType value "unit"
  | .object _ => .error (.invalidValue .map "map with a single key")
  | j => wrongType j "string or map"

def decodeEither (name : String) : Json → Except DecodeError (UInt64 ⊕ String)
  | .string s => .ok (.inr s)
  | .number n =>
    match numberAsU64 n with
    | .ok n => .ok (.inl n)
    | .error _ => .error (.noVariant name)
  | _ => .error (.noVariant name)

mutual

def Shape.decode : {α : Type} → Shape α → Json → Except DecodeError α
  | _, .string, j =>
    match j with
    | .string s => .ok s
    | _ => wrongType j "a string"
  | _, .u32, j =>
    match j with
    | .number n => numberAsU32 n
    | _ => wrongType j "u32"
  | _, .u64, j =>
    match j with
    | .number n => numberAsU64 n
    | _ => wrongType j "u64"
  | _, .f64, j =>
    match j with
    | .number n => .ok (numberAsDouble n)
    | _ => wrongType j "f64"
  | _, .either name, j => decodeEither name j
  | _, .choice cases _ _, j => decodeChoice cases j
  | _, .list item, j =>
    match j with
    | .array items => items.mapM fun i => item.decode i
    | _ => wrongType j "a sequence"
  | _, .optional item, j =>
    match j with
    | .null => .ok none
    | _ => do return some (← item.decode j)
  | _, .map s f _ _, j => do return f (← s.decode j)
  | _, .record name fields, j =>
    match j with
    | .array items =>
      if items.length ≤ fields.size then fields.decodeItems name fields.size 0 items
      else do
        discard <| fields.decodeItems name fields.size 0 items
        .error (.invalidLength items.length "fewer elements in array")
    | .object members => do
      let filled ← members.foldlM (fun filled m => fields.fill filled m.1 m.2) fields.empty
      fields.finish filled
    | _ => wrongType j (recordTitle name)

def Fields.fill : {α σ : Type} → Fields α σ → σ → String → Json → Except DecodeError σ
  | _, _, .nil, filled, _, _ => .ok filled
  | _, _, .cons field aliases shape _ rest, (a, filled), name, value =>
    if Fields.isNamed field aliases name then
      if a.isSome then .error (.duplicateField field)
      else do return (some (← shape.decode value), filled)
    else do return (a, ← rest.fill filled name value)

/-- Fills the fields in order; `index` items have been used. -/
def Fields.decodeItems : {α σ : Type} → Fields α σ → (record : String) → (count index : Nat) →
    List Json → Except DecodeError α
  | _, _, .nil, _, _, _, _ => .ok ()
  | _, _, .cons _ _ shape absent rest, record, count, index, items =>
    match items with
    | item :: items => do
      let a ← shape.decode item
      return (a, ← rest.decodeItems record count (index + 1) items)
    | [] =>
      match absent with
      | some a => do return (a, ← rest.decodeItems record count (index + 1) [])
      | none => .error (.invalidLength index (recordItems record count))

end

end RackInventory
