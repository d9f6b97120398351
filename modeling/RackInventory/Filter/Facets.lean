import RackInventory.Inventory.Catalog
import RackInventory.Text.Search

/-!
# Values that can be selected

The facets of a list of items are the racks, types, categories and tags that occur in it, each
once, in the order in which they first occur. A search text restricts each of the four lists on
its own. The panel that shows them is open or closed.
-/

namespace RackInventory

/-- The elements of a list, each once, where it first occurs. -/
def distinct {α : Type} [DecidableEq α] : List α → List α
  | [] => []
  | a :: rest => a :: (distinct rest).filter (· ≠ a)

structure Facets where
  racks : List String
  equipmentTypes : List String
  categories : List EquipmentCategory
  tags : List String
deriving DecidableEq

structure FacetQueries where
  racks : String
  equipmentTypes : String
  categories : String
  tags : String
deriving DecidableEq

def FacetQueries.empty : FacetQueries := ⟨"", "", "", ""⟩

namespace Facets

def ofItems (items : List PlacedItem) : Facets where
  racks := distinct (items.map (·.rack))
  equipmentTypes := distinct (items.map (·.typeId))
  categories := distinct (items.map (·.category))
  tags := distinct (items.flatMap (·.tags))

def restricted (f : Facets) (q : FacetQueries) : Facets where
  racks := f.racks.filter (containsIgnoringCase · q.racks)
  equipmentTypes := f.equipmentTypes.filter (containsIgnoringCase · q.equipmentTypes)
  categories := f.categories.filter fun c => containsIgnoringCase c.key q.categories
  tags := f.tags.filter (containsIgnoringCase · q.tags)

end Facets

structure FacetPanel where
  isOpen : Bool
  queries : FacetQueries
deriving DecidableEq

namespace FacetPanel

def initial : FacetPanel := ⟨false, .empty⟩

def flip (p : FacetPanel) : FacetPanel := { p with isOpen := !p.isOpen }

end FacetPanel

end RackInventory
