import RackInventory.Shape.OfText
import RackInventory.Text.Blank
import RackInventory.Text.Lowercase

/-!
# Equipment categories

The four lists in which the layout of a rack keeps its equipment. A category has one key, by which
it is written, shown and searched; people may also write it with blanks around it, in capitals, or
`node` for `nodes`.
-/

namespace RackInventory

inductive EquipmentCategory where
  | node
  | network
  | storage
  | misc
deriving DecidableEq, Repr

namespace EquipmentCategory

def all : List EquipmentCategory := [.node, .network, .storage, .misc]

def key : EquipmentCategory → String
  | .node => "nodes"
  | .network => "network"
  | .storage => "storage"
  | .misc => "misc"

def rank : EquipmentCategory → Nat
  | .node => 0
  | .network => 1
  | .storage => 2
  | .misc => 3

instance : LT EquipmentCategory := ⟨fun a b => a.rank < b.rank⟩

instance : LE EquipmentCategory := ⟨fun a b => a.rank ≤ b.rank⟩

instance : DecidableLT EquipmentCategory := fun a b => inferInstanceAs (Decidable (a.rank < b.rank))

theorem rank_injective {a b : EquipmentCategory} (h : a.rank = b.rank) : a = b := by
  cases a <;> cases b <;> first | rfl | exact absurd h (by decide)

instance : Std.IsLinearOrder EquipmentCategory where
  le_refl a := Nat.le_refl a.rank
  le_trans _ _ _ h k := Nat.le_trans (m := _) h k
  le_antisymm _ _ h k := rank_injective (Nat.le_antisymm h k)
  le_total a b := Nat.le_total a.rank b.rank

instance : Std.LawfulOrderLT EquipmentCategory where
  lt_iff _ _ := Nat.lt_iff_le_and_not_ge

def keys : List (String × EquipmentCategory) := all.map fun c => (c.key, c)

def shape : Shape EquipmentCategory := .choice keys key (by intro c; cases c <;> rfl)

/-- A text that names no category. -/
structure Unknown where
  text : String
deriving DecidableEq

def Unknown.message (u : Unknown) : String := "unknown equipment category: " ++ u.text

def ofText (s : String) : Except Unknown EquipmentCategory :=
  match String.ofList ((trimBoth isBlank s.toList).map Lowercase.asciiLower) with
  | "nodes" => .ok .node
  | "node" => .ok .node
  | "network" => .ok .network
  | "storage" => .ok .storage
  | "misc" => .ok .misc
  | _ => .error ⟨s⟩

end EquipmentCategory

end RackInventory
