import RackInventory.Configuration.Basic
import RackInventory.Filter.Criteria
import RackInventory.Proofs.Shape.Leniency

/-!
# What is written is read back

A description of a type is unambiguous when no field answers to the name of a later one and null
stands for nothing but absence. Every value of such a type is read back from its document value. All
descriptions of the inventory, the criteria and the configuration are of this kind, and the value is
read back also when the members of the document value are put in another order, as a printer that
sorts them does.

Doubles that are not finite have no document value; they are never read and are not considered.
-/

namespace RackInventory

open Json

def Shape.writesNull : {α : Type} → Shape α → Bool
  | _, .optional _ => true
  | _, .map s _ _ _ => s.writesNull
  | _, _ => false

def Fields.names : {α σ : Type} → Fields α σ → List String
  | _, _, .nil => []
  | _, _, .cons name _ _ _ rest => name :: rest.names

mutual

/-- Whether different values are always written differently. -/
def Shape.unambiguous : {α : Type} → Shape α → Bool
  | _, .list item => item.unambiguous
  | _, .optional item => !item.writesNull && item.unambiguous
  | _, .map s _ _ _ => s.unambiguous
  | _, .record _ fields => fields.unambiguous
  | _, _ => true

/-- Whether each field reads what is written for it. -/
def Fields.unambiguous : {α σ : Type} → Fields α σ → Bool
  | _, _, .nil => true
  | _, _, .cons name aliases shape _ rest =>
    !(rest.names.any (Fields.isNamed name aliases)) && shape.unambiguous && rest.unambiguous

end

theorem numberAsNat_of_lt {wanted : String} {bits n : Nat} (h : n < Nat.pow 2 bits) :
    numberAsNat wanted bits (.integer n) = .ok n := by
  have fits : 0 ≤ (n : Int) ∧ (n : Int) < Nat.pow 2 bits :=
    ⟨Int.natCast_nonneg n, Int.ofNat_lt.mpr h⟩
  rw [numberAsNat, if_pos fits, Int.toNat_natCast]

theorem numberAsU32_toNat (n : UInt32) : numberAsU32 (.integer n.toNat) = .ok n := by
  rw [numberAsU32, numberAsNat_of_lt n.toNat_lt, Except.map, UInt32.ofNat_toNat]

theorem numberAsU64_toNat (n : UInt64) : numberAsU64 (.integer n.toNat) = .ok n := by
  rw [numberAsU64, numberAsNat_of_lt n.toNat_lt, Except.map, UInt64.ofNat_toNat]

theorem Shape.encode_ne_null : ∀ {α : Type} (s : Shape α), s.writesNull = false →
    ∀ a, s.encode a ≠ .null
  | _, .string, _, _ => nofun
  | _, .u32, _, _ => nofun
  | _, .u64, _, _ => nofun
  | _, .f64, _, _ => nofun
  | _, .either _, _, .inl _ => nofun
  | _, .either _, _, .inr _ => nofun
  | _, .choice _ _ _, _, _ => nofun
  | _, .list _, _, _ => nofun
  | _, .map s _ g _, h, b => s.encode_ne_null h (g b)
  | _, .record _ _, _, _ => nofun

theorem Fields.map_fst_encode : ∀ {α σ : Type} (fields : Fields α σ) (a : α),
    (fields.encode a).map Prod.fst = fields.names
  | _, _, .nil, _ => rfl
  | _, _, .cons name _ _ _ rest, (_, b) => congrArg (name :: ·) (rest.map_fst_encode b)

mutual

theorem Shape.decode_encode : ∀ {α : Type} (s : Shape α), s.unambiguous = true →
    ∀ a, s.decode (s.encode a) = .ok a
  | _, .string, _, _ => rfl
  | _, .u32, _, n => numberAsU32_toNat n
  | _, .u64, _, n => numberAsU64_toNat n
  | _, .f64, _, _ => rfl
  | _, .either _, _, .inl n => by
    rw [Shape.encode, Shape.decode, Json.nat, decodeEither, numberAsU64_toNat]
  | _, .either _, _, .inr _ => rfl
  | _, .choice cases nameOf law, _, a => by
    change caseOf cases (nameOf a) = .ok a
    rw [caseOf, law]
  | _, .list item, h, l => by
    have each : List.Forall₂ (fun a b => item.decode a = .ok b) (l.map fun a => item.encode a) l :=
      List.forall₂_map_left_iff.mpr (List.forall₂_same.mpr fun a _ => item.decode_encode h a)
    exact mapM_eq_ok_iff.mpr each
  | _, .optional _, _, none => rfl
  | _, .optional item, h, some a => by
    rw [Shape.unambiguous, Bool.and_eq_true, Bool.not_eq_true'] at h
    have present := item.encode_ne_null h.1 a
    rw [Shape.encode, Shape.decode_optional_of_ne_null present, item.decode_encode h.2, Except.map]
  | _, .map s f g law, h, b => by
    rw [Shape.encode, Shape.decode, s.decode_encode h]
    exact congrArg Except.ok (law b)
  | _, .record _ fields, h, a => Shape.decode_object_eq_ok_iff.mpr (fields.hold_encode h a)

theorem Fields.hold_encode : ∀ {α σ : Type} (fields : Fields α σ), fields.unambiguous = true →
    ∀ a, fields.Hold (fields.encode a) a
  | _, _, .nil, _, _ => trivial
  | _, _, .cons name aliases shape absent rest, h, (a, b) => by
    simp only [Fields.unambiguous, Bool.and_eq_true, Bool.not_eq_true', List.any_eq_false] at h
    obtain ⟨⟨apart, value⟩, more⟩ := h
    have self : Fields.isNamed name aliases name = true := by simp [Fields.isNamed]
    have foreign : ∀ m ∈ rest.encode b, Fields.isNamed name aliases m.1 = false := by
      intro m mem
      have named : m.1 ∈ rest.names := rest.map_fst_encode b ▸ List.mem_map_of_mem mem
      simpa using apart m.1 named
    rw [Fields.encode, Fields.Hold, Fields.ownMembers_cons_of_named self,
      Fields.otherMembers_cons_of_named self, Fields.ownMembers_eq_nil_iff.mpr foreign,
      Fields.otherMembers_eq_self_iff.mpr foreign]
    exact ⟨.inr ⟨_, rfl, shape.decode_encode value a⟩, rest.hold_encode more b⟩

end

/-- All that a client keeps. -/
def modelShapes : List (Σ α : Type, Shape α) :=
  responseShapes ++
    [⟨_, Criteria.shape⟩, ⟨_, EquipmentCategory.shape⟩, ⟨_, Configuration.shape⟩]

theorem unambiguous_of_model : ∀ p ∈ modelShapes, p.2.unambiguous = true := by
  decide +kernel

theorem tolerant_of_model : ∀ p ∈ modelShapes, p.2.Tolerant := by
  intro p mem
  rcases List.mem_append.mp mem with response | other
  · exact tolerant_of_response p response
  · clear mem
    revert p
    simp [Criteria.shape, EquipmentCategory.shape, Configuration.shape, Shape.set, Shape.Tolerant,
      Fields.Tolerant, softFields, SoftFields.members, Fields.tolerant_required]

/-- What was read is written so that it is read back, also after the members are put in another
order and after other edits that a backend may make. -/
theorem written_is_read_back : ∀ p ∈ modelShapes, ∀ (j : Json) (a : p.1), p.2.decode j = .ok a →
    p.2.decode (p.2.encode a) = .ok a ∧
      ∀ k, Relation.EqvGen p.2.Edit (p.2.encode a) k → p.2.decode k = .ok a := by
  intro p model _ a _
  have back := p.2.decode_encode (unambiguous_of_model p model) a
  exact ⟨back, fun k edits => ((tolerant_of_model p model).decode_eq_ok_iff edits a).mp back⟩

/-- A list that was null is written as an empty list. -/
theorem null_list_is_read_back :
    RackLayout.shape.decode (.object [("rack", .string "r"), ("nodes", .array []),
      ("network", .array []), ("storage", .array []), ("misc", .array [])]) =
        .ok ⟨"r", [], [], [], []⟩ :=
  (written_is_read_back ⟨_, RackLayout.shape⟩ (by simp [modelShapes, responseShapes])
    (.object [("nodes", .null), ("rack", .string "r")]) _ rfl).1

end RackInventory
