import RackInventory.Quantity

/-!
# What is known about an equipment type

One row per known property, as a label and a value. Unknown parts of a value are left out, and a
row without a value is not shown. The dialog that shows the details keeps its content when it is
closed.
-/

namespace RackInventory

/-- The parts that are not empty, with a separator between them. -/
def joinPresent (separator : String) (parts : List String) : String :=
  String.intercalate separator (parts.filter (!·.isEmpty))

def orEmpty {α : Type} (text : α → String) : Option α → String
  | none => ""
  | some a => text a

namespace Details

def times : String := " × "

/-- A label and a value. -/
abbrev Row := String × String

def count (n : Option UInt32) : String := orEmpty toString n

def cpuValue (c : Cpu) : String :=
  let base := joinPresent times [count c.sockets, orEmpty id c.model]
  joinPresent " " [base, orEmpty (fun n => "(" ++ toString n ++ " cores)") c.cores]

def ramValue (r : Ram) : String := joinPresent times [count r.dimm, orEmpty Size.text r.size]

def storageValue (d : StorageDevice) : String :=
  joinPresent " " [orEmpty id d.kind, orEmpty id d.model, orEmpty Size.text d.size]

def interfaceValue (i : NetworkInterface) : String :=
  joinPresent times
    [count i.number, joinPresent " " [orEmpty id i.kind, orEmpty bitRateText i.bandwidth]]

def diskValue (d : DiskGroup) : String :=
  joinPresent times
    [count d.number, joinPresent " " [orEmpty id d.model, orEmpty id d.kind, orEmpty Size.text d.size]]

/-- The height in rack units, and the width if it is known. -/
def sizeValue (height : Float) (width : Option Float) : String :=
  match width with
  | some w => amountNumber height ++ "U × " ++ amountNumber w
  | none => amountNumber height ++ "U"

/-- All rows, those without a value among them. -/
def candidates (t : EquipmentType) : List Row :=
  [("Model", orEmpty id t.model),
   ("Size", orEmpty (sizeValue · t.width) t.height),
   ("Specs", orEmpty id t.specs),
   ("CPU", orEmpty cpuValue t.cpu),
   ("CPU specs", orEmpty (fun c => orEmpty id c.specs) t.cpu),
   ("RAM", orEmpty ramValue t.ram)] ++
  t.storage.map (fun d => ("Storage", storageValue d)) ++
  t.netifs.map (fun i => ("Network interface", interfaceValue i)) ++
  t.disks.map (fun d => ("Disks", diskValue d))

def rows (t : EquipmentType) : List Row := (candidates t).filter (!·.2.isEmpty)

/-- The text followed by blanks up to a number of characters. -/
def padded (width : Nat) (s : String) : String :=
  s ++ String.ofList (List.replicate (width - s.length) ' ')

/-- The identifier and one line per row, the values below one another. -/
def text (t : EquipmentType) : String :=
  let all := rows t
  let width := all.foldl (fun w r => max w r.1.length) 0
  t.id ++ "\n" ++ String.join (all.map fun r => "  " ++ padded width r.1 ++ "  " ++ r.2 ++ "\n")

end Details

structure TypeDialog where
  content : Option EquipmentType
  isOpen : Bool
deriving DecidableEq

namespace TypeDialog

def initial : TypeDialog := ⟨none, false⟩

def present (_ : TypeDialog) (t : EquipmentType) : TypeDialog := ⟨some t, true⟩

def close (d : TypeDialog) : TypeDialog := { d with isOpen := false }

end TypeDialog

end RackInventory
