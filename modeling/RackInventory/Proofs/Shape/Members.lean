import Mathlib.Data.List.Forall2
import RackInventory.Shape.OfJson

/-!
# What a record takes from the members of an object

Reading a record goes through the members one by one and fills the fields. When that succeeds, each
field has taken its value from the only member with one of its names, or has the value for its
absence because there is no such member. This says nothing of the order of the members and nothing
of the members that belong to no field.

Which error wins when reading fails is not described here.
-/

namespace RackInventory

open Json

theorem bind_eq_ok_iff {ε α β : Type} {x : Except ε α} {f : α → Except ε β} {b : β} :
    (x >>= f) = .ok b ↔ ∃ a, x = .ok a ∧ f a = .ok b := by
  cases x with
  | error e => exact ⟨nofun, nofun⟩
  | ok a => exact ⟨fun h => ⟨a, rfl, h⟩, by rintro ⟨_, ⟨⟩, h⟩; exact h⟩

theorem mapM_eq_ok_iff {ε α β : Type} {f : α → Except ε β} {l : List α} {r : List β} :
    l.mapM f = .ok r ↔ List.Forall₂ (fun a b => f a = .ok b) l r := by
  induction l generalizing r with
  | nil => cases r <;> simp [pure, Except.pure]
  | cons a l ih =>
    rw [List.mapM_cons, bind_eq_ok_iff]
    constructor
    · rintro ⟨b, here, more⟩
      obtain ⟨bs, later, eq⟩ := bind_eq_ok_iff.mp more
      cases eq
      exact .cons here (ih.mp later)
    · rintro (_ | ⟨here, later⟩)
      exact ⟨_, here, bind_eq_ok_iff.mpr ⟨_, ih.mpr later, rfl⟩⟩

namespace Fields

variable {α β σ : Type}

def ownMembers (field : String) (aliases : List String) (members : Members) : Members :=
  members.filter fun m => isNamed field aliases m.1

def otherMembers (field : String) (aliases : List String) (members : Members) : Members :=
  members.filter fun m => !isNamed field aliases m.1

section

variable {field : String} {aliases : List String} {m : String × Json} {members : Members}

theorem ownMembers_cons_of_named (named : isNamed field aliases m.1 = true) :
    ownMembers field aliases (m :: members) = m :: ownMembers field aliases members :=
  List.filter_cons_of_pos named

theorem otherMembers_cons_of_named (named : isNamed field aliases m.1 = true) :
    otherMembers field aliases (m :: members) = otherMembers field aliases members :=
  List.filter_cons_of_neg (by simp [named])

theorem ownMembers_cons_of_foreign (foreign : isNamed field aliases m.1 = false) :
    ownMembers field aliases (m :: members) = ownMembers field aliases members :=
  List.filter_cons_of_neg (by simp [foreign])

theorem otherMembers_cons_of_foreign (foreign : isNamed field aliases m.1 = false) :
    otherMembers field aliases (m :: members) = m :: otherMembers field aliases members :=
  List.filter_cons_of_pos (by simp [foreign])

theorem ownMembers_eq_nil_iff :
    ownMembers field aliases members = [] ↔ ∀ m ∈ members, isNamed field aliases m.1 = false := by
  simp [ownMembers, List.filter_eq_nil_iff]

theorem otherMembers_eq_self_iff :
    otherMembers field aliases members = members ↔
      ∀ m ∈ members, isNamed field aliases m.1 = false := by
  simp [otherMembers, List.filter_eq_self]

end

/-- Whether a field has a value by its own members: at most one, and none only if it may be absent. -/
def Takes (shape : Shape α) (absent : Option α) (own : Members) (a : α) : Prop :=
  own = [] ∧ absent = some a ∨ ∃ m, own = [m] ∧ shape.decode m.2 = .ok a

/-- Whether the members of an object hold the values of a record. -/
def Hold : {α σ : Type} → Fields α σ → Members → α → Prop
  | _, _, .nil, _, _ => True
  | _, _, .cons name aliases shape absent rest, members, (a, b) =>
    Takes shape absent (ownMembers name aliases members) a ∧
      rest.Hold (otherMembers name aliases members) b

def fillAll (fields : Fields α σ) (filled : σ) (members : Members) : Except DecodeError σ :=
  members.foldlM (fun filled m => fields.fill filled m.1 m.2) filled

def fillOwn (field : String) (shape : Shape α) (a : Option α) (own : Members) :
    Except DecodeError (Option α) :=
  own.foldlM (fun a m =>
    if a.isSome then .error (.duplicateField field) else do return some (← shape.decode m.2)) a

/-- The first field and the others fill in their own members independently. -/
theorem fillAll_cons_eq_ok_iff {name : String} {aliases : List String} {shape : Shape α}
    {absent : Option α} {rest : Fields β σ} {members : Members} {a a' : Option α} {r r' : σ} :
    (Fields.cons name aliases shape absent rest).fillAll (a, r) members = .ok (a', r') ↔
      fillOwn name shape a (ownMembers name aliases members) = .ok a' ∧
        rest.fillAll r (otherMembers name aliases members) = .ok r' := by
  induction members generalizing a r with
  | nil => simp [fillAll, fillOwn, ownMembers, otherMembers, pure, Except.pure]
  | cons m members ih =>
    rw [fillAll, List.foldlM_cons, bind_eq_ok_iff]
    cases own : isNamed name aliases m.1 with
    | true =>
      rw [ownMembers_cons_of_named own, otherMembers_cons_of_named own, fillOwn,
        List.foldlM_cons, bind_eq_ok_iff, fill, if_pos own]
      by_cases filled : a.isSome
      · simp [filled]
      · simp only [filled, Bool.false_eq_true, if_false, bind_eq_ok_iff]
        constructor
        · rintro ⟨_, ⟨x, read, ⟨⟩⟩, more⟩
          obtain ⟨mine, theirs⟩ := ih.mp more
          exact ⟨⟨_, ⟨x, read, rfl⟩, mine⟩, theirs⟩
        · rintro ⟨⟨_, ⟨x, read, ⟨⟩⟩, mine⟩, theirs⟩
          exact ⟨_, ⟨x, read, rfl⟩, ih.mpr ⟨mine, theirs⟩⟩
    | false =>
      rw [ownMembers_cons_of_foreign own, otherMembers_cons_of_foreign own, fillAll,
        List.foldlM_cons, bind_eq_ok_iff, fill, own, if_neg Bool.false_ne_true]
      simp only [bind_eq_ok_iff]
      constructor
      · rintro ⟨_, ⟨x, read, ⟨⟩⟩, more⟩
        obtain ⟨mine, theirs⟩ := ih.mp more
        exact ⟨mine, x, read, theirs⟩
      · rintro ⟨mine, x, read, theirs⟩
        exact ⟨_, ⟨x, read, rfl⟩, ih.mpr ⟨mine, theirs⟩⟩

theorem fillOwn_some_eq_ok_iff {field : String} {shape : Shape α} {a : α} {own : Members}
    {a' : Option α} : fillOwn field shape (some a) own = .ok a' ↔ own = [] ∧ a' = some a := by
  cases own with
  | nil =>
    change Except.ok (some a) = .ok a' ↔ _
    rw [Except.ok.injEq, eq_comm, iff_and_self]
    exact fun _ => rfl
  | cons m own => exact ⟨nofun, fun h => absurd h.1 (List.cons_ne_nil m own)⟩

/-- A second member of the same field is an error. -/
theorem fillOwn_none_eq_ok_iff {field : String} {shape : Shape α} {own : Members}
    {a' : Option α} :
    fillOwn field shape none own = .ok a' ↔
      own = [] ∧ a' = none ∨ ∃ m a, own = [m] ∧ shape.decode m.2 = .ok a ∧ a' = some a := by
  cases own with
  | nil =>
    change Except.ok none = .ok a' ↔ _
    rw [Except.ok.injEq]
    constructor
    · rintro rfl
      exact .inl ⟨rfl, rfl⟩
    · rintro (⟨_, rfl⟩ | ⟨_, _, ⟨⟩, _⟩)
      rfl
  | cons m own =>
    rw [fillOwn, List.foldlM_cons, bind_eq_ok_iff]
    simp only [Option.isSome_none, Bool.false_eq_true, if_false, bind_eq_ok_iff]
    constructor
    · rintro ⟨_, ⟨a, read, ⟨⟩⟩, more⟩
      obtain ⟨rfl, rfl⟩ := fillOwn_some_eq_ok_iff.mp more
      exact .inr ⟨m, a, rfl, read, rfl⟩
    · rintro (⟨⟨⟩, _⟩ | ⟨m, a, ⟨⟩, read, rfl⟩)
      exact ⟨_, ⟨a, read, rfl⟩, fillOwn_some_eq_ok_iff.mpr ⟨rfl, rfl⟩⟩

/-- Filling in all members and finishing is what `Hold` describes. -/
theorem fillAll_finish_eq_ok_iff : ∀ {α σ : Type} (fields : Fields α σ) {members : Members} {a : α},
    (fields.fillAll fields.empty members >>= fields.finish) = .ok a ↔ fields.Hold members a
  | _, _, .nil, members, a => by
    have filled : ∀ l : Members, Fields.nil.fillAll () l = .ok () := by
      intro l
      induction l with
      | nil => rfl
      | cons m l ih => exact ih
    rw [Fields.empty, filled]
    exact iff_of_true rfl trivial
  | _, _, .cons name aliases shape absent rest, members, (x, y) => by
    rw [bind_eq_ok_iff, Hold, ← fillAll_finish_eq_ok_iff rest, bind_eq_ok_iff]
    constructor
    · rintro ⟨⟨x', filled⟩, fill, finish⟩
      obtain ⟨mine, theirs⟩ := fillAll_cons_eq_ok_iff.mp fill
      rcases fillOwn_none_eq_ok_iff.mp mine with ⟨missing, rfl⟩ | ⟨m, v, own, read, rfl⟩
      · cases absent with
        | none => cases finish
        | some d =>
          obtain ⟨y, later, ⟨⟩⟩ := bind_eq_ok_iff.mp finish
          exact ⟨.inl ⟨missing, rfl⟩, filled, theirs, later⟩
      · obtain ⟨y, later, ⟨⟩⟩ := bind_eq_ok_iff.mp finish
        exact ⟨.inr ⟨m, own, read⟩, filled, theirs, later⟩
    · rintro ⟨⟨missing, rfl⟩ | ⟨m, own, read⟩, filled, theirs, later⟩
      · refine ⟨(none, filled), fillAll_cons_eq_ok_iff.mpr ⟨?_, theirs⟩, ?_⟩
        · exact fillOwn_none_eq_ok_iff.mpr (.inl ⟨missing, rfl⟩)
        · exact bind_eq_ok_iff.mpr ⟨y, later, rfl⟩
      · refine ⟨(some x, filled), fillAll_cons_eq_ok_iff.mpr ⟨?_, theirs⟩, ?_⟩
        · exact fillOwn_none_eq_ok_iff.mpr (.inr ⟨m, x, own, read, rfl⟩)
        · exact bind_eq_ok_iff.mpr ⟨y, later, rfl⟩

end Fields

/-- A record is read from an object when the members of the object hold its values. -/
theorem Shape.decode_object_eq_ok_iff {α σ : Type} {name : String} {fields : Fields α σ}
    {members : Members} {a : α} :
    (Shape.record name fields).decode (.object members) = .ok a ↔ fields.Hold members a := by
  rw [Shape.decode, ← Fields.fillAll_finish_eq_ok_iff]
  rfl

theorem Shape.decode_array_eq_ok_iff {α : Type} {item : Shape α} {items : List Json} {l : List α} :
    (Shape.list item).decode (.array items) = .ok l ↔
      List.Forall₂ (fun j a => item.decode j = .ok a) items l :=
  mapM_eq_ok_iff

/-- Null stands for absence and for nothing else. -/
theorem Shape.decode_optional_of_ne_null {α : Type} {item : Shape α} {j : Json} (h : j ≠ .null) :
    (Shape.optional item).decode j = (item.decode j).map some := by
  cases j with
  | null => exact absurd rfl h
  | _ => rfl

end RackInventory
