/-!
# YAML documents as values

A document is a tree of texts, lists and mappings. A part of it can carry a number, and a
reference stands for the last part that carries its number, in the order of the document.
-/

namespace RackInventory

inductive Yaml where
  | scalar (label : Option Nat) (text : String)
  | sequence (label : Option Nat) (items : List Yaml)
  | mapping (label : Option Nat) (members : List (Yaml × Yaml))
  | reference (label : Nat)

namespace Yaml

def label : Yaml → Option Nat
  | scalar label _ => label
  | sequence label _ => label
  | mapping label _ => label
  | reference _ => none

mutual

/-- The last part with a number. -/
def lastLabelled (n : Nat) : Yaml → Option Yaml
  | .sequence label items =>
    (lastLabelledItem n items).or (if label = some n then some (.sequence label items) else none)
  | .mapping label members =>
    (lastLabelledMember n members).or (if label = some n then some (.mapping label members) else none)
  | .scalar label text => if label = some n then some (.scalar label text) else none
  | .reference _ => none

def lastLabelledItem (n : Nat) : List Yaml → Option Yaml
  | [] => none
  | y :: rest => (lastLabelledItem n rest).or (lastLabelled n y)

def lastLabelledMember (n : Nat) : List (Yaml × Yaml) → Option Yaml
  | [] => none
  | (k, v) :: rest => (lastLabelledMember n rest).or ((lastLabelled n v).or (lastLabelled n k))

end

/-- What a part of a document stands for. -/
def resolved (document : Yaml) : Yaml → Option Yaml
  | reference n => document.lastLabelled n
  | y => some y

/-- The text that a part of a document stands for. -/
def text? (document part : Yaml) : Option String :=
  match document.resolved part with
  | some (.scalar _ text) => some text
  | _ => none

end Yaml

end RackInventory
