/-!
# Finite sets kept as ascending lists

A set is its list of members in strictly ascending order, so two sets with the same members are
equal, and the order in which a set is shown does not depend on how it was built. Only the order's
laws are used: strings and equipment categories are the two instances that occur.
-/

namespace RackInventory

/-- A finite set, as the ascending list of its members. -/
structure OrderedSet (α : Type) [LT α] where
  toList : List α
  ascending : toList.Pairwise (· < ·)
deriving DecidableEq

namespace OrderedSet

section Operations

variable {α : Type} [LT α]

def empty : OrderedSet α := ⟨[], .nil⟩

instance : Inhabited (OrderedSet α) := ⟨empty⟩

def isEmpty (s : OrderedSet α) : Bool := s.toList.isEmpty

instance : Membership α (OrderedSet α) := ⟨fun s a => a ∈ s.toList⟩

theorem mem_iff {a : α} {s : OrderedSet α} : a ∈ s ↔ a ∈ s.toList := Iff.rfl

@[ext]
theorem ext_toList {s t : OrderedSet α} (h : s.toList = t.toList) : s = t := by
  cases s; cases t; cases h; rfl

theorem isEmpty_iff {s : OrderedSet α} : s.isEmpty = true ↔ s = empty := by
  rw [isEmpty, List.isEmpty_iff]
  constructor
  · intro none
    exact ext_toList none
  · rintro rfl
    rfl

instance [DecidableEq α] (a : α) (s : OrderedSet α) : Decidable (a ∈ s) :=
  inferInstanceAs (Decidable (a ∈ s.toList))

def erase [DecidableEq α] (s : OrderedSet α) (a : α) : OrderedSet α :=
  ⟨s.toList.filter (· ≠ a), s.ascending.filter _⟩

def filter (s : OrderedSet α) (p : α → Bool) : OrderedSet α :=
  ⟨s.toList.filter p, s.ascending.filter _⟩

theorem mem_erase [DecidableEq α] {s : OrderedSet α} {a x : α} :
    x ∈ s.erase a ↔ x ∈ s ∧ x ≠ a := by
  simp [mem_iff, erase]

theorem toList_erase [DecidableEq α] (s : OrderedSet α) (a : α) :
    (s.erase a).toList = s.toList.filter (· ≠ a) := rfl

/-- Puts a value into an ascending list, unless it is there. -/
def insertAscending [DecidableLT α] (a : α) : List α → List α
  | [] => [a]
  | b :: rest =>
    if a < b then a :: b :: rest else if b < a then b :: insertAscending a rest else b :: rest

end Operations

section Order

variable {α : Type} [LT α] [LE α] [Std.IsLinearOrder α] [Std.LawfulOrderLT α] [DecidableLT α]

omit [DecidableLT α] in
theorem eq_of_not_lt {a b : α} (h : ¬ a < b) (k : ¬ b < a) : a = b :=
  Std.le_antisymm (Std.not_lt.1 k) (Std.not_lt.1 h)

theorem mem_insertAscending {a x : α} {l : List α} :
    x ∈ insertAscending a l ↔ x = a ∨ x ∈ l := by
  induction l with
  | nil => simp [insertAscending]
  | cons b rest ih =>
    unfold insertAscending
    split
    · simp
    · split
      · simp [ih, or_left_comm]
      · rename_i h k
        have e := eq_of_not_lt h k
        subst e
        simp

theorem pairwise_insertAscending {a : α} {l : List α} (h : l.Pairwise (· < ·)) :
    (insertAscending a l).Pairwise (· < ·) := by
  induction l with
  | nil => simp [insertAscending]
  | cons b rest ih =>
    obtain ⟨below, tail⟩ := List.pairwise_cons.1 h
    unfold insertAscending
    split
    · rename_i ab
      refine List.pairwise_cons.2 ⟨?_, h⟩
      intro x hx
      rcases List.mem_cons.1 hx with rfl | hx
      · exact ab
      · exact Std.lt_trans ab (below x hx)
    · split
      · rename_i ba
        refine List.pairwise_cons.2 ⟨?_, ih tail⟩
        intro x hx
        rcases mem_insertAscending.1 hx with rfl | hx
        · exact ba
        · exact below x hx
      · exact h

def insert (s : OrderedSet α) (a : α) : OrderedSet α :=
  ⟨insertAscending a s.toList, pairwise_insertAscending s.ascending⟩

/-- The set of the values of a list, whatever their order and repetitions. -/
def ofList (l : List α) : OrderedSet α := l.foldl insert empty

theorem mem_insert {s : OrderedSet α} {a x : α} : x ∈ s.insert a ↔ x = a ∨ x ∈ s :=
  mem_insertAscending

theorem mem_foldl_insert {l : List α} {s : OrderedSet α} {x : α} :
    x ∈ l.foldl insert s ↔ x ∈ s ∨ x ∈ l := by
  induction l generalizing s with
  | nil => simp
  | cons a rest ih => simp [ih, mem_insert, or_assoc, or_comm, or_left_comm]

theorem mem_ofList {l : List α} {x : α} : x ∈ ofList l ↔ x ∈ l := by
  rw [ofList, mem_foldl_insert]
  simp [mem_iff, empty]

omit [Std.IsLinearOrder α] [DecidableLT α] in
theorem nodup_toList (s : OrderedSet α) : s.toList.Nodup := by
  apply List.Pairwise.imp _ s.ascending
  rintro a b below rfl
  exact Std.lt_irrefl below

omit [DecidableLT α] in
/-- An ascending list is determined by its members. -/
theorem eq_of_mem_iff_of_ascending {l m : List α} (hl : l.Pairwise (· < ·))
    (hm : m.Pairwise (· < ·)) (h : ∀ x, x ∈ l ↔ x ∈ m) : l = m := by
  induction l generalizing m with
  | nil =>
    cases m with
    | nil => rfl
    | cons b _ => exact absurd ((h b).2 (by simp)) (by simp)
  | cons a l ih =>
    cases m with
    | nil => exact absurd ((h a).1 (by simp)) (by simp)
    | cons b m =>
      obtain ⟨belowA, tailL⟩ := List.pairwise_cons.1 hl
      obtain ⟨belowB, tailM⟩ := List.pairwise_cons.1 hm
      have heads : a = b := by
        refine eq_of_not_lt ?_ ?_
        · intro ab
          rcases List.mem_cons.1 ((h a).1 (by simp)) with e | e
          · exact Std.lt_irrefl (e ▸ ab)
          · exact Std.lt_irrefl (Std.lt_trans ab (belowB a e))
        · intro ba
          rcases List.mem_cons.1 ((h b).2 (by simp)) with e | e
          · exact Std.lt_irrefl (e ▸ ba)
          · exact Std.lt_irrefl (Std.lt_trans ba (belowA b e))
      subst heads
      congr 1
      refine ih tailL tailM ?_
      intro x
      constructor
      · intro hx
        rcases List.mem_cons.1 ((h x).1 (List.mem_cons_of_mem _ hx)) with e | e
        · exact absurd (belowA x hx) (e ▸ Std.lt_irrefl)
        · exact e
      · intro hx
        rcases List.mem_cons.1 ((h x).2 (List.mem_cons_of_mem _ hx)) with e | e
        · exact absurd (belowB x hx) (e ▸ Std.lt_irrefl)
        · exact e

omit [DecidableLT α] in
/-- Two sets with the same members are equal. -/
theorem ext_mem {s t : OrderedSet α} (h : ∀ x, x ∈ s ↔ x ∈ t) : s = t :=
  ext_toList (eq_of_mem_iff_of_ascending s.ascending t.ascending h)

theorem ofList_toList (s : OrderedSet α) : ofList s.toList = s :=
  ext_mem fun _ => mem_ofList

end Order

end OrderedSet

end RackInventory
