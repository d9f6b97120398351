import Mathlib.Data.List.Forall2
import RackInventory.Proofs.Text.ByteOrder
import RackInventory.View.Listing

/-!
# Who is in the racks of a room

The racks of a room are listed row by row, each as often as it stands in the rows. With a rack come
the names of the infrastructures that have a layout entry for it, in the order of their bytes. These
can be collected for all racks at once, in one pass over the layouts. Only which entries there are
decides the list: the infrastructures and their layout entries can be in any order and be repeated.

Two infrastructures of one name are not told apart. Layout entries for racks that are not in the
room do not show.
-/

namespace RackInventory

abbrev Register := Std.HashMap String (OrderedSet String)

namespace Register

def names (register : Register) (rack : String) : OrderedSet String := register.getD rack .empty

def enter (register : Register) (rack name : String) : Register :=
  register.insert rack ((register.names rack).insert name)

/-- Enters an infrastructure for each rack that it is laid out over. -/
def enterLayout (register : Register) (i : Infrastructure) : Register :=
  i.layout.foldl (fun register l => register.enter l.rack i.name) register

def ofInfrastructures (infrastructures : List Infrastructure) : Register :=
  infrastructures.foldl enterLayout ∅

theorem mem_names_enter {register : Register} {rack name r n : String} :
    n ∈ (register.enter rack name).names r ↔ (name = n ∧ rack = r) ∨ n ∈ register.names r := by
  rw [names, enter, Std.HashMap.getD_insert]
  by_cases same : rack = r
  · subst same
    simp [OrderedSet.mem_insert, eq_comm]
  · simp [same, names]

theorem mem_names_enterLayout {register : Register} {i : Infrastructure} {r n : String} :
    n ∈ (register.enterLayout i).names r ↔
      (i.name = n ∧ ∃ l ∈ i.layout, l.rack = r) ∨ n ∈ register.names r := by
  have entered : ∀ (layout : List RackLayout) (register : Register),
      n ∈ (layout.foldl (fun register l => register.enter l.rack i.name) register).names r ↔
        (i.name = n ∧ ∃ l ∈ layout, l.rack = r) ∨ n ∈ register.names r := by
    intro layout
    induction layout with
    | nil => simp
    | cons l rest ih =>
      intro register
      rw [List.foldl_cons, ih, mem_names_enter, or_left_comm]
      simp only [List.mem_cons, exists_eq_or_imp, and_or_left, or_assoc]
  exact entered i.layout register

/-- A name is entered for a rack when an infrastructure of that name is laid out over the rack. -/
theorem mem_names_ofInfrastructures {infrastructures : List Infrastructure} {r n : String} :
    n ∈ (ofInfrastructures infrastructures).names r ↔
      ∃ i ∈ infrastructures, i.name = n ∧ ∃ l ∈ i.layout, l.rack = r := by
  have entered : ∀ register : Register, n ∈ (infrastructures.foldl enterLayout register).names r ↔
      (∃ i ∈ infrastructures, i.name = n ∧ ∃ l ∈ i.layout, l.rack = r) ∨
        n ∈ register.names r := by
    induction infrastructures with
    | nil => simp
    | cons i rest ih =>
      intro register
      rw [List.foldl_cons, ih, mem_names_enterLayout, or_left_comm]
      simp only [List.mem_cons, exists_eq_or_imp, or_assoc]
  have nobody : n ∉ (∅ : Register).names r := by
    rw [names, Std.HashMap.getD_empty]
    exact List.not_mem_nil
  rw [ofInfrastructures, entered, or_iff_left nobody]

end Register

theorem mem_occupants {infrastructures : List Infrastructure} {rack name : String} :
    name ∈ occupants infrastructures rack ↔
      ∃ i ∈ infrastructures, i.name = name ∧ ∃ l ∈ i.layout, l.rack = rack := by
  rw [occupants, ← OrderedSet.mem_iff, OrderedSet.mem_ofList]
  simp only [List.mem_map, List.mem_filter, Infrastructure.occupies, List.any_eq_true,
    decide_eq_true_eq]
  constructor
  · rintro ⟨i, ⟨mem, laid⟩, rfl⟩
    exact ⟨i, mem, rfl, laid⟩
  · rintro ⟨i, mem, rfl, laid⟩
    exact ⟨i, ⟨mem, laid⟩, rfl⟩

theorem occupants_ascending (infrastructures : List Infrastructure) (rack : String) :
    (occupants infrastructures rack).Pairwise (· < ·) :=
  OrderedSet.ascending _

/-- The occupants of a rack can be looked up in the register. -/
theorem names_ofInfrastructures (infrastructures : List Infrastructure) (rack : String) :
    ((Register.ofInfrastructures infrastructures).names rack).toList =
      occupants infrastructures rack := by
  apply OrderedSet.eq_of_mem_iff_of_ascending (OrderedSet.ascending _) (occupants_ascending _ _)
  intro name
  rw [← OrderedSet.mem_iff, Register.mem_names_ofInfrastructures, mem_occupants]

/-- Whether two infrastructures have one name and the same layout entries, in whatever order and
number. -/
def SameLayout (i j : Infrastructure) : Prop := i.name = j.name ∧ ∀ l, l ∈ i.layout ↔ l ∈ j.layout

/-- Whether two lists have the same infrastructures, each with the same layout entries, in whatever
order and number. -/
def Rearranged (is js : List Infrastructure) : Prop :=
  (∀ i ∈ is, ∃ j ∈ js, SameLayout i j) ∧ ∀ j ∈ js, ∃ i ∈ is, SameLayout i j

theorem occupants_of_rearranged {is js : List Infrastructure} (same : Rearranged is js)
    (rack : String) : occupants js rack = occupants is rack := by
  apply OrderedSet.eq_of_mem_iff_of_ascending (occupants_ascending _ _) (occupants_ascending _ _)
  intro name
  rw [mem_occupants, mem_occupants]
  constructor
  · rintro ⟨j, mem, rfl, l, laid, rfl⟩
    obtain ⟨i, here, names, layout⟩ := same.2 j mem
    exact ⟨i, here, names, l, (layout l).mpr laid, rfl⟩
  · rintro ⟨i, mem, rfl, l, laid, rfl⟩
    obtain ⟨j, here, names, layout⟩ := same.1 i mem
    exact ⟨j, here, names.symm, l, (layout l).mp laid, rfl⟩

/-- Whether an entry of the list is about a rack and tells who is in it. -/
structure RackEntry.Tells (infrastructures : List Infrastructure) (k : RoomRack) (e : RackEntry) :
    Prop where
  name : e.name = k.name
  fillPercent : e.fillPercent = percent k.fillrate
  ascending : e.infrastructures.Pairwise fun a b => Utf8.ofString a < Utf8.ofString b
  nodup : e.infrastructures.Nodup
  mem_iff : ∀ name, name ∈ e.infrastructures ↔
    ∃ i ∈ infrastructures, i.name = name ∧ ∃ l ∈ i.layout, l.rack = e.name

namespace Room

def entryOf (infrastructures : List Infrastructure) (k : RoomRack) : RackEntry where
  name := k.name
  fillPercent := percent k.fillrate
  infrastructures := occupants infrastructures k.name

theorem entryOf_tells (infrastructures : List Infrastructure) (k : RoomRack) :
    (entryOf infrastructures k).Tells infrastructures k where
  name := rfl
  fillPercent := rfl
  ascending := (occupants_ascending _ _).imp Utf8.ofString_lt_iff.mpr
  nodup := OrderedSet.nodup_toList _
  mem_iff _ := mem_occupants

theorem rackEntries_eq_map (r : Room) (infrastructures : List Infrastructure) (query : String) :
    r.rackEntries infrastructures query =
      (r.racks.filter fun k => containsIgnoringCase k.name query).map (entryOf infrastructures) :=
  rfl

theorem rackEntries_empty (r : Room) (infrastructures : List Infrastructure) :
    r.rackEntries infrastructures "" = r.racks.map (entryOf infrastructures) := by
  have all : (r.racks.filter fun k => containsIgnoringCase k.name "") = r.racks :=
    List.filter_eq_self.mpr fun k _ => containsIgnoringCase_empty k.name
  rw [rackEntries_eq_map, all]

/-- One entry for each rack whose name the query is found in, row by row, with the infrastructures
that have a layout entry for the rack. The infrastructures can be looked up in a register that was
filled in one pass, their order and that of their layouts do not matter, and a query leaves the
entries of the whole list that it is found in. -/
theorem rackEntries_join (r : Room) (infrastructures : List Infrastructure) (query : String) :
    List.Forall₂ (RackEntry.Tells infrastructures)
      (r.rows.flatMap fun row => row.racks.filter fun k => containsIgnoringCase k.name query)
      (r.rackEntries infrastructures query) ∧
    (∀ e ∈ r.rackEntries infrastructures query, e.infrastructures =
      ((Register.ofInfrastructures infrastructures).names e.name).toList) ∧
    (∀ others, Rearranged infrastructures others →
      r.rackEntries others query = r.rackEntries infrastructures query) ∧
    r.rackEntries infrastructures query =
      (r.rackEntries infrastructures "").filter fun e => containsIgnoringCase e.name query := by
  refine ⟨?_, ?_, ?_, ?_⟩
  · rw [← List.filter_flatMap, rackEntries_eq_map, List.forall₂_map_right_iff]
    exact List.forall₂_same.mpr fun k _ => entryOf_tells infrastructures k
  · intro e mem
    rw [rackEntries_eq_map] at mem
    obtain ⟨k, _, rfl⟩ := List.mem_map.mp mem
    exact (names_ofInfrastructures infrastructures k.name).symm
  · intro others same
    rw [rackEntries_eq_map, rackEntries_eq_map]
    apply List.map_congr_left
    intro k _
    rw [entryOf, entryOf, occupants_of_rearranged same]
  · rw [rackEntries_empty, List.filter_map]
    rfl

namespace Sample

def entryFor (rack : String) : RackLayout := ⟨rack, [], [], [], []⟩

def core : Infrastructure := ⟨"core", none, [], [entryFor "R01"]⟩

def edge : Infrastructure := ⟨"edge", none, [], [entryFor "R01", entryFor "R02"]⟩

def hall : Room := ⟨"hall", none, [⟨none, [⟨"R01", 0.5⟩, ⟨"R02", 0⟩], 2⟩]⟩

/-- Layout entries in reverse, and infrastructures that are named twice. -/
def repeated : List Infrastructure :=
  [{ edge with layout := edge.layout.reverse ++ edge.layout }, core, core]

theorem repeated_listed_alike :
    Rearranged [core, edge] repeated ∧
    hall.rackEntries repeated "" = hall.rackEntries [core, edge] "" ∧
    (hall.rackEntries [core, edge] "").map (·.infrastructures) = [["core", "edge"], ["edge"]] := by
  have rearranged : Rearranged [core, edge] repeated := by
    simp [Rearranged, SameLayout, repeated]
  obtain ⟨-, -, alike, -⟩ := rackEntries_join hall [core, edge] ""
  exact ⟨rearranged, alike repeated rearranged, by decide +kernel⟩

end Sample

end Room

end RackInventory
