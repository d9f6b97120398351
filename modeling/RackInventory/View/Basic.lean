import RackInventory.Filter.Facets
import RackInventory.Filter.Matching
import RackInventory.View.Arrangement
import RackInventory.View.Details

/-!
# The view of an infrastructure

A view holds the catalog of the loaded infrastructure, the criteria, the arrangement of racks, the
facet panel, the dialog, and the places of the items that are shown. A gesture changes one part.
After a gesture on the catalog or the criteria the view is settled: the places are found again, and
the arrangement knows the racks that are shown then.
-/

namespace RackInventory

inductive Gesture where
  | load (source : Loaded Infrastructure)
  | refine (change : Criteria.Change)
  | flipRack (rack : String)
  | reverseRacks
  | flipPanel
  | searchFacets (q : FacetQueries)
  | openType (t : EquipmentType)
  | closeDialog
deriving DecidableEq

structure ViewState where
  catalog : Catalog
  criteria : Criteria
  arrangement : Arrangement
  panel : FacetPanel
  dialog : TypeDialog
  visible : List Nat
deriving DecidableEq

namespace ViewState

/-- The elements at some places of a list. -/
def pick {α : Type} (l : List α) (places : List Nat) : List α := places.filterMap (l[·]?)

/-- Finds the places of the items to show, and arranges their racks. -/
def settled (v : ViewState) : ViewState :=
  let visible := v.criteria.places v.catalog.items
  { v with
    visible
    arrangement := v.arrangement.showing ((pick v.catalog.items visible).map (·.rack)) }

def initial (source : Loaded Infrastructure) : ViewState :=
  settled
    { catalog := .ofLoaded source
      criteria := .empty
      arrangement := .initial
      panel := .initial
      dialog := .initial
      visible := [] }

def step (v : ViewState) : Gesture → ViewState
  | .load source => settled { v with catalog := v.catalog.load source }
  | .refine change => settled { v with criteria := v.criteria.after change }
  | .flipRack rack => { v with arrangement := v.arrangement.flip rack }
  | .reverseRacks => { v with arrangement := v.arrangement.reverse }
  | .flipPanel => { v with panel := v.panel.flip }
  | .searchFacets q => { v with panel := { v.panel with queries := q } }
  | .openType t => { v with dialog := v.dialog.present t }
  | .closeDialog => { v with dialog := v.dialog.close }

def run (v : ViewState) (gestures : List Gesture) : ViewState := gestures.foldl step v

def infrastructure (v : ViewState) : Infrastructure := v.catalog.source.content

def shown (v : ViewState) : List PlacedItem := pick v.catalog.items v.visible

/-- The items that are shown, by rack. -/
def sections (v : ViewState) : List RackSection := v.arrangement.sections v.shown

/-- The values to select from, as the panel restricts them. -/
def facets (v : ViewState) : Facets := (Facets.ofItems v.catalog.items).restricted v.panel.queries

def shownCount (v : ViewState) : Nat := v.visible.length

def isEmpty (v : ViewState) : Bool := v.visible.isEmpty

end ViewState

end RackInventory
