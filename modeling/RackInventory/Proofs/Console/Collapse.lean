import RackInventory.Proofs.Console.Equipment

/-!
# Collapsed racks on the page of an infrastructure

The racks to collapse are given as a list and replayed as flips, so a rack that is given twice is
expanded again: it is collapsed when it is given an odd number of times. The page is what was meant,
the page on which the given racks and no others are collapsed, exactly when each given rack that is
shown is given an odd number of times. Racks that are not shown can be given as often as one likes.

The page with some racks collapsed is described here from the blocks of the racks alone: the marker
and the name for a collapsed rack, and the table for the others. Two such pages are the same text only
if the same racks are collapsed on them.
-/

namespace RackInventory

namespace Page

def foldedBlock (s : RackSection) : Bool → String
  | true => "▸ " ++ s.rack ++ " (" ++ toString s.items.length ++ ")\n"
  | false => "▾ " ++ s.rack ++ " (" ++ toString s.items.length ++ ")\n" ++ (sectionTable s).text ++ "\n"

def foldedBlocks (sections : List RackSection) (folded : String → Bool) : String :=
  String.join (sections.map fun s => foldedBlock s (folded s.rack))

/-- The page of a view on which those racks are collapsed that `folded` says. -/
def folding (v : ViewState) (folded : String → Bool) : String :=
  equipmentHead v.infrastructure.name v.criteria.badges (v.sections.flatMap (·.items)).length ++
    (if v.sections.isEmpty then "No equipment matches the current filters.\n"
    else foldedBlocks v.sections folded)

theorem sectionBlock_eq (s : RackSection) (folded : Bool) :
    sectionBlock { s with expanded := !folded } = foldedBlock s folded := by
  cases folded with
  | true => simp [sectionBlock, sectionHead, foldedBlock]
  | false => simp [sectionBlock, sectionHead, foldedBlock, sectionTable, String.append_assoc]

theorem ofSections_folded (name : String) (badges : List Badge) (sections : List RackSection)
    (folded : String → Bool) :
    ofSections name badges (sections.map fun s => { s with expanded := !folded s.rack }) =
      equipmentHead name badges (sections.flatMap (·.items)).length ++
        (if sections.isEmpty then "No equipment matches the current filters.\n"
        else foldedBlocks sections folded) := by
  have blocks : (sections.map fun s => { s with expanded := !folded s.rack }).map sectionBlock =
      sections.map fun s => foldedBlock s (folded s.rack) := by
    rw [List.map_map]
    exact List.map_congr_left fun s _ => sectionBlock_eq s (folded s.rack)
  rw [ofSections, blocks, List.flatMap_map, List.isEmpty_map]
  rfl

/-- A block begins with its marker. -/
theorem head?_foldedBlock (s : RackSection) (folded : Bool) (rest : String) :
    (foldedBlock s folded ++ rest).toList.head? = some (if folded then '▸' else '▾') := by
  cases folded <;> simp [foldedBlock]

theorem foldedBlocks_cons (s : RackSection) (sections : List RackSection) (folded : String → Bool) :
    foldedBlocks (s :: sections) folded =
      foldedBlock s (folded s.rack) ++ foldedBlocks sections folded := by
  rw [foldedBlocks, List.map_cons, String.join_cons]
  rfl

/-- The first block in which two texts differ shows it by its marker. -/
theorem foldedBlocks_inj {sections : List RackSection} {f g : String → Bool} :
    foldedBlocks sections f = foldedBlocks sections g ↔ ∀ s ∈ sections, f s.rack = g s.rack := by
  induction sections with
  | nil => simp [foldedBlocks]
  | cons s sections ih =>
    rw [foldedBlocks_cons, foldedBlocks_cons, List.forall_mem_cons, ← ih]
    by_cases same : f s.rack = g s.rack
    · rw [same, String.append_right_inj, eq_self, true_and]
    · refine iff_of_false ?_ fun both => same both.1
      intro eq
      have heads := congrArg (fun t => t.toList.head?) eq
      simp only [head?_foldedBlock] at heads
      cases first : f s.rack <;> cases second : g s.rack <;> simp_all

theorem folding_inj {v : ViewState} {f g : String → Bool} :
    folding v f = folding v g ↔ ∀ rack ∈ v.shownRacks, f rack = g rack := by
  have racks : (∀ rack ∈ v.shownRacks, f rack = g rack) ↔ ∀ s ∈ v.sections, f s.rack = g s.rack := by
    constructor
    · intro same s mem
      exact same _ (Arrangement.exists_mem_sections.mp ⟨s, mem, rfl⟩)
    · intro same rack shown
      obtain ⟨s, mem, rfl⟩ := Arrangement.exists_mem_sections.mpr shown
      exact same s mem
  rw [racks, folding, folding, String.append_right_inj]
  cases none : v.sections with
  | nil => simp
  | cons s sections => exact foldedBlocks_inj

end Page

def EquipmentArguments.expanded (a : EquipmentArguments) : EquipmentArguments :=
  { a with collapsed := [] }

/-- Whether a rack is given an odd number of times. -/
def EquipmentArguments.folds (a : EquipmentArguments) (rack : String) : Bool :=
  decide (Odd (a.collapsed.count rack))

namespace Command

variable (i : Infrastructure) (a : EquipmentArguments)

theorem shown_expanded : (viewOf i a.expanded).shown = (viewOf i a).shown := by
  rw [shown_viewOf, shown_viewOf]
  rfl

theorem criteria_expanded : (viewOf i a.expanded).criteria = (viewOf i a).criteria := by
  rw [criteria_viewOf, criteria_viewOf]
  rfl

theorem infrastructure_viewOf : (viewOf i a).infrastructure = i := (catalog_viewOf i a).1

/-- The sections are those of the expanded view, collapsed where a rack is given oddly. -/
theorem sections_folded :
    (viewOf i a).sections =
      (viewOf i a.expanded).sections.map fun s => { s with expanded := !a.folds s.rack } := by
  have order : (viewOf i a).arrangement.order = (viewOf i a.expanded).arrangement.order := by
    rw [order_viewOf, order_viewOf]
    rfl
  have shown := shown_expanded i a
  rw [ViewState.sections, Arrangement.sections_of_order order, ← shown]
  refine List.map_congr_left fun s mem => ?_
  have here := Arrangement.eq_sectionOf_of_mem mem
  have rack : s.rack ∈ (viewOf i a).shownRacks := by
    rw [ViewState.shownRacks, ← shown]
    exact Arrangement.exists_mem_sections.mp ⟨s, mem, rfl⟩
  have state : ((viewOf i a).arrangement.isExpanded? s.rack).getD true = !a.folds s.rack := by
    simp [isExpanded?_viewOf rack, EquipmentArguments.folds, ← Nat.not_odd_iff_even]
  have items : s.items = (viewOf i a.expanded).shown.filter (·.rack = s.rack) :=
    congrArg RackSection.items here
  rw [Arrangement.sectionOf, state, items]

/-- The page is that of the expanded view, on which the racks are collapsed that are given oddly. -/
theorem page_folded : Page.ofView (viewOf i a) = Page.folding (viewOf i a.expanded) a.folds := by
  rw [Page.ofView, infrastructure_viewOf, ← criteria_expanded, sections_folded,
    Page.ofSections_folded, Page.folding, infrastructure_viewOf]

/-- A rack is collapsed on the page when it is given an odd number of times. This is the page on
which the given racks are collapsed exactly when no rack that is shown is given an even number of
times, once or more. -/
theorem collapsed_when_given_oddly :
    Page.ofView (viewOf i a) = Page.folding (viewOf i a.expanded) a.folds ∧
    (Page.ofView (viewOf i a) = Page.folding (viewOf i a.expanded) (a.collapsed.contains ·) ↔
      ∀ rack ∈ (viewOf i a.expanded).shownRacks, rack ∈ a.collapsed →
        Odd (a.collapsed.count rack)) ∧
    Page.ofView (viewOf i
        { a with collapsed := a.collapsed.filter (· ∈ (viewOf i a.expanded).shownRacks) }) =
      Page.ofView (viewOf i a) ∧
    ∀ client : Client, execute client (.infrastructure a) =
      ((client.infrastructure a.name).within ("Failed to fetch infrastructure " ++ a.name) >>= fun i =>
        pure (Page.folding (viewOf i a.expanded) a.folds)) := by
  refine ⟨page_folded i a, ?_, ?_, ?_⟩
  · rw [page_folded, Page.folding_inj]
    refine forall₂_congr fun rack _ => ?_
    have given : 0 < a.collapsed.count rack ↔ rack ∈ a.collapsed := List.count_pos_iff
    rw [EquipmentArguments.folds, Bool.eq_iff_iff, decide_eq_true_eq, List.contains_iff_mem, ← given]
    constructor
    · intro same
      exact same.mpr
    · intro odd
      refine ⟨fun folded => ?_, odd⟩
      obtain ⟨k, eq⟩ := folded
      omega
  · rw [page_folded, page_folded]
    refine Page.folding_inj.mpr fun rack shown => ?_
    have shown : rack ∈ (viewOf i a.expanded).shownRacks := shown
    have count : (a.collapsed.filter (· ∈ (viewOf i a.expanded).shownRacks)).count rack =
        a.collapsed.count rack := List.count_filter (decide_eq_true shown)
    rw [EquipmentArguments.folds, EquipmentArguments.folds, count]
  · intro client
    rw [execute]
    simp only [page_folded]

namespace Twice

def infrastructure : Infrastructure :=
  ⟨"lab", none, [], [⟨"r", [⟨"n", ⟨"t", none, none, none, none, none, none, [], [], []⟩, none, none,
    none, []⟩], [], [], []⟩]⟩

def arguments : EquipmentArguments := ⟨"lab", [], [], [], [], none, false, ["r", "r"]⟩

/-- The rack is shown and given, but not collapsed. -/
theorem given_twice_not_collapsed :
    (viewOf infrastructure arguments).shownRacks = ["r"] ∧
      Page.ofView (viewOf infrastructure arguments) ≠
        Page.folding (viewOf infrastructure arguments.expanded) (arguments.collapsed.contains ·) := by
  decide +kernel

end Twice

end Command

end RackInventory
