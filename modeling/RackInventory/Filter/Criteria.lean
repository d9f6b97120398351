import RackInventory.OrderedSet
import RackInventory.Inventory.Category

/-!
# Filter criteria

What a user has selected: sets of racks, equipment types, categories and tags, and a text to look
for in names. A selection is one value of one of the four sets. Each selected value, and a text
that is not empty, has a badge by which it can be removed again. A badge may be stale: it then
removes nothing.
-/

namespace RackInventory

inductive Dimension where
  | racks
  | equipmentTypes
  | categories
  | tags
  | equipmentName
deriving DecidableEq, Repr

namespace Dimension

def label : Dimension → String
  | .racks => "rack"
  | .equipmentTypes => "type"
  | .categories => "category"
  | .tags => "tag"
  | .equipmentName => "name"

def key : Dimension → String
  | .racks => "Racks"
  | .equipmentTypes => "EquipmentTypes"
  | .categories => "Categories"
  | .tags => "Tags"
  | .equipmentName => "EquipmentName"

def all : List Dimension := [.racks, .equipmentTypes, .categories, .tags, .equipmentName]

def shape : Shape Dimension :=
  .choice (all.map fun d => (d.key, d)) key (by intro d; cases d <;> rfl)

end Dimension

/-- One value of a dimension that is a set. -/
inductive Selection where
  | rack (name : String)
  | equipmentType (id : String)
  | category (c : EquipmentCategory)
  | tag (name : String)
deriving DecidableEq

def Selection.dimension : Selection → Dimension
  | .rack _ => .racks
  | .equipmentType _ => .equipmentTypes
  | .category _ => .categories
  | .tag _ => .tags

/-- A part of the criteria, as it is shown. -/
structure Badge where
  dimension : Dimension
  value : String
deriving DecidableEq

def Badge.text (b : Badge) : String := b.dimension.label ++ ": " ++ b.value

structure Criteria where
  racks : OrderedSet String
  equipmentTypes : OrderedSet String
  categories : OrderedSet EquipmentCategory
  tags : OrderedSet String
  nameQuery : String
deriving DecidableEq

/-- A set, written as the list of its members. -/
def Shape.set {α : Type} [LT α] [LE α] [Std.IsLinearOrder α] [Std.LawfulOrderLT α] [DecidableLT α]
    (item : Shape α) : Shape (OrderedSet α) :=
  .map (.list item) OrderedSet.ofList OrderedSet.toList OrderedSet.ofList_toList

namespace Criteria

def shape : Shape Criteria :=
  .map
    (.record "FilterCriteria" <|
      .required "racks" (.set .string) <|
      .required "equipment_types" (.set .string) <|
      .required "categories" (.set EquipmentCategory.shape) <|
      .required "tags" (.set .string) <|
      .required "name_query" .string .nil)
    (fun (racks, equipmentTypes, categories, tags, nameQuery, ()) =>
      { racks, equipmentTypes, categories, tags, nameQuery })
    (fun c => (c.racks, c.equipmentTypes, c.categories, c.tags, c.nameQuery, ()))
    fun _ => rfl

def empty : Criteria := ⟨.empty, .empty, .empty, .empty, ""⟩

instance : Inhabited Criteria := ⟨empty⟩

def isEmpty (c : Criteria) : Bool :=
  c.racks.isEmpty && c.equipmentTypes.isEmpty && c.categories.isEmpty && c.tags.isEmpty &&
    c.nameQuery.isEmpty

def contains (c : Criteria) : Selection → Bool
  | .rack r => r ∈ c.racks
  | .equipmentType t => t ∈ c.equipmentTypes
  | .category k => k ∈ c.categories
  | .tag t => t ∈ c.tags

def insert (c : Criteria) : Selection → Criteria
  | .rack r => { c with racks := c.racks.insert r }
  | .equipmentType t => { c with equipmentTypes := c.equipmentTypes.insert t }
  | .category k => { c with categories := c.categories.insert k }
  | .tag t => { c with tags := c.tags.insert t }

def erase (c : Criteria) : Selection → Criteria
  | .rack r => { c with racks := c.racks.erase r }
  | .equipmentType t => { c with equipmentTypes := c.equipmentTypes.erase t }
  | .category k => { c with categories := c.categories.erase k }
  | .tag t => { c with tags := c.tags.erase t }

/-- Selects a value; the answer says whether it was not selected before. -/
def add (c : Criteria) (s : Selection) : Bool × Criteria :=
  if c.contains s then (false, c) else (true, c.insert s)

/-- Takes a value out of the selection; the answer says whether it was selected before. -/
def remove (c : Criteria) (s : Selection) : Bool × Criteria :=
  if c.contains s then (true, c.erase s) else (false, c)

/-- Changes whether a value is selected; the answer says whether it is now. -/
def flip (c : Criteria) (s : Selection) : Bool × Criteria :=
  if c.contains s then (false, (c.remove s).2) else (true, (c.add s).2)

/-- The criteria with another text to look for in names. -/
def seeking (c : Criteria) (query : String) : Criteria := { c with nameQuery := query }

def without (c : Criteria) : Dimension → Criteria
  | .racks => { c with racks := .empty }
  | .equipmentTypes => { c with equipmentTypes := .empty }
  | .categories => { c with categories := .empty }
  | .tags => { c with tags := .empty }
  | .equipmentName => { c with nameQuery := "" }

inductive Change where
  | add (s : Selection)
  | remove (s : Selection)
  | flip (s : Selection)
  | seek (query : String)
  | clear (d : Dimension)
  | clearAll
  | dismiss (b : Badge)
deriving DecidableEq

/-- The badges: racks, types, categories and tags, each in ascending order, then the name. -/
def badges (c : Criteria) : List Badge :=
  c.racks.toList.map (⟨.racks, ·⟩) ++
  c.equipmentTypes.toList.map (⟨.equipmentTypes, ·⟩) ++
  c.categories.toList.map (fun k => ⟨.categories, k.key⟩) ++
  c.tags.toList.map (⟨.tags, ·⟩) ++
  (if c.nameQuery.isEmpty then [] else [⟨.equipmentName, c.nameQuery⟩])

/-- Removes what a badge stands for; the answer says whether there was anything to remove. -/
def dismiss (c : Criteria) (b : Badge) : Bool × Criteria :=
  match b.dimension with
  | .racks => c.remove (.rack b.value)
  | .equipmentTypes => c.remove (.equipmentType b.value)
  | .categories =>
    match EquipmentCategory.ofText b.value with
    | .ok k => c.remove (.category k)
    | .error _ => (false, c)
  | .tags => c.remove (.tag b.value)
  | .equipmentName => if c.nameQuery.isEmpty then (false, c) else (true, c.without .equipmentName)

def after (c : Criteria) : Change → Criteria
  | .add s => (c.add s).2
  | .remove s => (c.remove s).2
  | .flip s => (c.flip s).2
  | .seek query => c.seeking query
  | .clear d => c.without d
  | .clearAll => empty
  | .dismiss b => (c.dismiss b).2

end Criteria

end RackInventory
