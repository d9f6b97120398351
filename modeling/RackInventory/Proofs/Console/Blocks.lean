import RackInventory.Proofs.Console.Collapse
import RackInventory.Proofs.View.Grouping

/-!
# The page of an infrastructure, block by block

The page of a view is an opening, which says how many items are shown, and a block for each rack
that is shown, in the order of the racks. The block of a collapsed rack is the line with its name and
its count. A flip of a rack therefore changes nothing outside the block of that rack, and what stands
in a collapsed rack leaves no trace: the page depends on what its sections show and on nothing else.

Names may hold line breaks, so a page does not tell which sections it is made of, and no converse is
claimed.
-/

namespace RackInventory

/-- Whether two items are the same to a reader of the page. -/
structure PlacedItem.LooksLike (i j : PlacedItem) : Prop where
  name : i.name = j.name
  category : i.category = j.category
  typeId : i.typeId = j.typeId
  tags : i.tags = j.tags

/-- Whether two sections are the same to a reader of the page. Of the items in a collapsed rack only
their number counts. -/
structure RackSection.LooksLike (s t : RackSection) : Prop where
  rack : s.rack = t.rack
  expanded : s.expanded = t.expanded
  count : s.items.length = t.items.length
  items : s.expanded = true → List.Forall₂ PlacedItem.LooksLike s.items t.items

theorem map_eq_of_forall₂ {α β : Type} {R : α → α → Prop} {f : α → β}
    (each : ∀ a b, R a b → f a = f b) {l m : List α} (h : List.Forall₂ R l m) :
    l.map f = m.map f := by
  rw [← List.forall₂_eq_eq_eq, List.forall₂_map_left_iff, List.forall₂_map_right_iff]
  exact h.imp each

namespace Page

theorem sectionBlock_congr {s t : RackSection} (same : s.LooksLike t) :
    sectionBlock s = sectionBlock t := by
  have head : sectionHead s = sectionHead t := by
    rw [sectionHead, sectionHead, same.rack, same.expanded, same.count]
  rw [sectionBlock, sectionBlock, head, ← same.expanded]
  by_cases expanded : s.expanded = true
  · have rows : (sectionTable s).rows = (sectionTable t).rows := by
      refine map_eq_of_forall₂ (fun i j alike => ?_) (same.items expanded)
      rw [alike.name, alike.category, alike.typeId, alike.tags]
    have table : sectionTable s = sectionTable t := congrArg (Table.mk _) rows
    rw [if_pos expanded, if_pos expanded, table]
  · rw [if_neg expanded, if_neg expanded]

/-- Sections that look alike make the same page. -/
theorem ofSections_congr (name : String) (badges : List Badge) {sections others : List RackSection}
    (same : List.Forall₂ RackSection.LooksLike sections others) :
    ofSections name badges sections = ofSections name badges others := by
  have counts : (sections.flatMap (·.items)).length = (others.flatMap (·.items)).length := by
    rw [List.length_flatMap, List.length_flatMap,
      map_eq_of_forall₂ (fun _ _ alike => alike.count) same]
  have blocks : sections.map sectionBlock = others.map sectionBlock :=
    map_eq_of_forall₂ (fun _ _ alike => sectionBlock_congr alike) same
  have empty : sections.isEmpty = others.isEmpty := by
    cases same <;> rfl
  rw [ofSections, ofSections, counts, blocks, empty]

end Page

theorem ViewState.length_shown {v : ViewState} (h : v.Settled) : v.shown.length = v.shownCount := by
  have lengths := congrArg List.length (v.criteria.map_places v.catalog.items)
  rw [List.length_map, List.length_map] at lengths
  rw [shown_eq h, shownCount, h.visible, lengths]

namespace Page

/-- What stands before the blocks: the name and the number of items, the badges if there are any,
and a line that says so if nothing is shown. -/
def opening (v : ViewState) : String :=
  v.infrastructure.name ++ ": " ++ countText v.shownCount "item" ++ "\n" ++
    (if v.criteria.badges = [] then ""
    else "filters: " ++ String.intercalate ", " (v.criteria.badges.map (·.text)) ++ "\n") ++
    (if v.isEmpty then "No equipment matches the current filters.\n" else "")

def blocks (sections : List RackSection) : String := String.join (sections.map sectionBlock)

theorem blocks_append (before after : List RackSection) :
    blocks (before ++ after) = blocks before ++ blocks after := by
  rw [blocks, List.map_append, String.join_append]
  rfl

theorem blocks_cons (s : RackSection) (after : List RackSection) :
    blocks (s :: after) = sectionBlock s ++ blocks after := by
  rw [blocks, List.map_cons, String.join_cons]
  rfl

/-- The sections have all items that are shown. -/
theorem length_flatMap_sections {v : ViewState} (h : v.Settled) :
    (v.sections.flatMap (·.items)).length = v.shownCount := by
  rw [List.length_flatMap, ← ViewState.length_shown h]
  exact (v.arrangement.stablePartition v.shown).sizes

theorem ofView_eq {v : ViewState} (h : v.Settled) : ofView v = opening v ++ blocks v.sections := by
  have head : equipmentHead v.infrastructure.name v.criteria.badges v.shownCount =
      v.infrastructure.name ++ ": " ++ countText v.shownCount "item" ++ "\n" ++
        (if v.criteria.badges = [] then ""
        else "filters: " ++ String.intercalate ", " (v.criteria.badges.map (·.text)) ++ "\n") := by
    rw [equipmentHead]
    simp only [List.isEmpty_iff]
  rw [ofView, ofSections, length_flatMap_sections h, head, opening]
  by_cases none : v.sections = []
  · have empty := (ViewState.isEmpty_iff_sections h).mpr none
    rw [if_pos empty, if_pos (List.isEmpty_iff.mpr none), none]
    exact String.append_empty.symm
  · have some : ¬ v.isEmpty = true := fun empty => none ((ViewState.isEmpty_iff_sections h).mp empty)
    rw [if_neg some, if_neg (none ∘ List.isEmpty_iff.mp), String.append_empty]
    rfl

end Page

namespace ViewState

variable {v : ViewState} {rack : String}

/-- A flip turns the section of its rack over and leaves the others. -/
theorem sections_flipRack (h : v.Settled) (rack : String) :
    (v.step (.flipRack rack)).sections = v.sections.map fun s =>
      if s.rack = rack then { s with expanded := !s.expanded } else s := by
  have order : (v.arrangement.flip rack).order = v.arrangement.order :=
    v.arrangement.order_flip rack
  change (v.arrangement.flip rack).sections v.shown = _
  rw [Arrangement.sections_of_order order]
  refine List.map_congr_left fun s mem => ?_
  have state := isExpanded?_of_section h mem
  have here := Arrangement.eq_sectionOf_of_mem mem
  have items : v.shown.filter (·.rack = s.rack) = s.items :=
    (congrArg RackSection.items here).symm
  rw [Arrangement.sectionOf, Arrangement.isExpanded?_flip, state, items]
  split <;> rfl

/-- Each rack that is shown has one section, between those of other racks. -/
theorem exists_section_between (shown : rack ∈ v.shownRacks) :
    ∃ before s after, v.sections = before ++ s :: after ∧ s.rack = rack ∧
      ∀ t ∈ before ++ after, t.rack ≠ rack := by
  obtain ⟨s, mem, rfl⟩ : ∃ s ∈ v.sections, s.rack = rack :=
    Arrangement.exists_mem_sections.mpr shown
  obtain ⟨before, after, eq⟩ := List.append_of_mem mem
  refine ⟨before, s, after, eq, rfl, ?_⟩
  have distinct := (v.arrangement.stablePartition v.shown).distinct
  change (v.sections.map (·.rack)).Nodup at distinct
  rw [eq, List.map_append, List.map_cons, List.nodup_middle, ← List.map_append,
    List.nodup_cons] at distinct
  intro t others same
  exact distinct.1 (same ▸ List.mem_map_of_mem others)

end ViewState

namespace Page

/-- A page made up of blocks, and what a flip does to it. -/
structure BlockByBlock (v : ViewState) : Prop where
  /-- The opening announces the items that are shown, and each rack has its block. -/
  text : ofView v = opening v ++ blocks v.sections
  /-- The block of a collapsed rack is one line. -/
  collapsed : ∀ s ∈ v.sections, s.expanded = false →
    sectionBlock s = "▸ " ++ s.rack ++ " (" ++ toString s.items.length ++ ")\n"
  /-- The block of an expanded rack is a line and a table. -/
  expanded : ∀ s ∈ v.sections, s.expanded = true →
    sectionBlock s = "▾ " ++ s.rack ++ " (" ++ toString s.items.length ++ ")\n" ++
      (Table.mk ["NAME", "CATEGORY", "TYPE", "TAGS"]
        (s.items.map fun i => [i.name, i.category.key, i.typeId, listText i.tags])).text ++ "\n"
  /-- The flip of a rack that is shown changes the block of that rack only. -/
  flipped : ∀ rack ∈ v.shownRacks, ∃ before s after,
    v.sections = before ++ s :: after ∧ s.rack = rack ∧ (∀ t ∈ before ++ after, t.rack ≠ rack) ∧
    ofView v = opening v ++ blocks before ++ sectionBlock s ++ blocks after ∧
    ofView (v.step (.flipRack rack)) =
      opening v ++ blocks before ++ sectionBlock { s with expanded := !s.expanded } ++ blocks after
  /-- The flip of another rack changes nothing. -/
  hidden : ∀ rack ∉ v.shownRacks, ofView (v.step (.flipRack rack)) = ofView v

theorem ofView_flipRack {v : ViewState} (h : v.Settled) {s : RackSection}
    {before after : List RackSection} (eq : v.sections = before ++ s :: after)
    (others : ∀ t ∈ before ++ after, t.rack ≠ s.rack) :
    ofView (v.step (.flipRack s.rack)) =
      opening v ++ blocks before ++ sectionBlock { s with expanded := !s.expanded } ++
        blocks after := by
  have unchanged : ∀ part : List RackSection, (∀ t ∈ part, t.rack ≠ s.rack) →
      (part.map fun t => if t.rack = s.rack then { t with expanded := !t.expanded } else t) =
        part := by
    intro part other
    exact (List.map_congr_left fun t mem => if_neg (other t mem)).trans part.map_id
  have flipped : (v.step (.flipRack s.rack)).sections =
      before ++ { s with expanded := !s.expanded } :: after := by
    rw [ViewState.sections_flipRack h, eq, List.map_append, List.map_cons, if_pos rfl,
      unchanged before fun t mem => others t (List.mem_append_left _ mem),
      unchanged after fun t mem => others t (List.mem_append_right _ mem)]
  rw [ofView_eq (ViewState.step_settled h _), flipped, blocks_append, blocks_cons,
    ← String.append_assoc, ← String.append_assoc]
  rfl

theorem blockByBlock {v : ViewState} (h : v.Settled) : BlockByBlock v where
  text := ofView_eq h
  collapsed s _ collapsed := by
    have block := sectionBlock_eq s true
    rwa [Bool.not_true, ← collapsed] at block
  expanded s _ expanded := by
    have block := sectionBlock_eq s false
    rwa [Bool.not_false, ← expanded] at block
  flipped rack shown := by
    obtain ⟨before, s, after, eq, rfl, others⟩ := ViewState.exists_section_between shown
    refine ⟨before, s, after, eq, rfl, others, ?_, ofView_flipRack h eq others⟩
    rw [ofView_eq h, eq, blocks_append, blocks_cons, ← String.append_assoc, ← String.append_assoc]
  hidden rack hidden := by rw [ViewState.step_flipRack_of_hidden h hidden]

/-- After any gestures the page is made up of blocks, a flip changes one of them, and nothing of the
content of collapsed racks is on any page. -/
theorem rendered_block_by_block (first : Loaded Infrastructure) (gestures : List Gesture) :
    BlockByBlock ((ViewState.initial first).run gestures) ∧
    ∀ (name : String) (badges : List Badge) (sections others : List RackSection),
      List.Forall₂ RackSection.LooksLike sections others →
        ofSections name badges sections = ofSections name badges others :=
  ⟨blockByBlock (ViewState.run_settled (ViewState.initial_settled first) gestures),
    fun name badges _ _ same => ofSections_congr name badges same⟩

/-- A node, or a power unit in its place, in a rack that is collapsed. -/
theorem collapsed_node_unseen :
    ofSections "lab" [] [⟨"R01", false, [.ofEquipment "R01" .node (.elsewhere "cn1")]⟩] =
      ofSections "lab" [] [⟨"R01", false, [.ofEquipment "R01" .misc (.elsewhere "pdu1")]⟩] :=
  (rendered_block_by_block ⟨0, .misnamed⟩ []).2 _ _ _ _
    (.cons ⟨rfl, rfl, rfl, fun expanded => absurd expanded Bool.false_ne_true⟩ .nil)

end Page

end RackInventory
