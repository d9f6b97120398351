import RackInventory.Proofs.Shape.RoundTrip

/-!
# Reading documents whose members are given

For an object with given members, and for the other forms that a document can be given in, this says
when it is read as a value. The laws are equivalences, so they tell what cannot be read as well.
-/

namespace RackInventory

open Json

namespace Fields

variable {α β σ : Type} {name : String} {shape : Shape α} {rest : Fields β σ} {ms : Members} {b : β}

@[simp]
theorem takes_nil_iff {absent : Option α} {a : α} : Takes shape absent [] a ↔ absent = some a := by
  simp [Takes]

@[simp]
theorem takes_singleton_iff {absent : Option α} {m : String × Json} {a : α} :
    Takes shape absent [m] a ↔ shape.decode m.2 = .ok a := by
  simp [Takes]

theorem hold_cons_iff {absent : Option α} {a : α} :
    (Fields.cons name [] shape absent rest).Hold ms (a, b) ↔
      Takes shape absent (ms.filter (·.1 == name)) a ∧ rest.Hold (ms.filter (·.1 != name)) b := by
  simp [Hold, ownMembers, otherMembers, isNamed, bne]

@[simp]
theorem hold_nil (ms : Members) (u : Unit) : Fields.nil.Hold ms u := trivial

@[simp]
theorem hold_required_iff {a : α} :
    (required name shape rest).Hold ms (a, b) ↔
      Takes shape none (ms.filter (·.1 == name)) a ∧ rest.Hold (ms.filter (·.1 != name)) b :=
  hold_cons_iff

@[simp]
theorem hold_optional_iff {a : Option α} :
    (optional name shape rest).Hold ms (a, b) ↔
      Takes (.optional shape) (some none) (ms.filter (·.1 == name)) a ∧
        rest.Hold (ms.filter (·.1 != name)) b :=
  hold_cons_iff

@[simp]
theorem hold_lenient_iff {a : List α} :
    (lenient name shape rest).Hold ms (a, b) ↔
      Takes (.listOrNull shape) (some []) (ms.filter (·.1 == name)) a ∧
        rest.Hold (ms.filter (·.1 != name)) b :=
  hold_cons_iff

@[simp]
theorem hold_orElse_iff {a value : α} :
    (orElse name shape value rest).Hold ms (a, b) ↔
      Takes shape (some value) (ms.filter (·.1 == name)) a ∧
        rest.Hold (ms.filter (·.1 != name)) b :=
  hold_cons_iff

end Fields

namespace Shape

variable {α β σ δ : Type} {item : Shape α}

/-- A record is read from an object whose members hold its fields. -/
@[simp]
theorem decode_record_eq_ok_iff {title : String} {fields : Fields α σ} {f : α → β} {g : β → α}
    {law : ∀ b, f (g b) = b} {ms : Members} {b : β} :
    (Shape.map (.record title fields) f g law).decode (.object ms) = .ok b ↔
      ∃ a, fields.Hold ms a ∧ f a = b := by
  rw [Shape.decode, bind_eq_ok_iff]
  simp only [decode_object_eq_ok_iff, pure, Except.pure, Except.ok.injEq]

@[simp]
theorem decode_string_eq_ok_iff {s t : String} :
    Shape.string.decode (.string s) = .ok t ↔ s = t := by
  rw [Shape.decode, Except.ok.injEq]

@[simp]
theorem decode_given_eq_ok_iff {j : Json} (given : j ≠ .null) {o : Option α} :
    (Shape.optional item).decode j = .ok o ↔ ∃ a, item.decode j = .ok a ∧ some a = o := by
  rw [decode_optional_of_ne_null given]
  cases item.decode j <;> simp [Except.map]

@[simp]
theorem decode_items_eq_ok_iff {f : δ → Json} {ds : List δ} {l : List α} :
    (Shape.listOrNull item).decode (.array (ds.map f)) = .ok l ↔
      List.Forall₂ (fun d a => item.decode (f d) = .ok a) ds l := by
  have given : Json.array (ds.map f) ≠ .null := nofun
  rw [listOrNull, Shape.decode, bind_eq_ok_iff]
  simp [decode_given_eq_ok_iff given, decode_array_eq_ok_iff, pure, Except.pure]

@[simp]
theorem decode_strings_eq_ok_iff {texts l : List String} :
    (Shape.listOrNull .string).decode (.strings texts) = .ok l ↔ texts = l := by
  rw [Json.strings, decode_items_eq_ok_iff]
  simp only [decode_string_eq_ok_iff, List.forall₂_eq_eq_eq]

@[simp]
theorem decode_nat_eq_ok_iff {n : Nat} {k : UInt32} :
    Shape.u32.decode (.nat n) = .ok k ↔ n < UInt32.size ∧ UInt32.ofNat n = k := by
  rw [Json.nat, Shape.decode, numberAsU32]
  by_cases fits : n < UInt32.size
  · have below : n < Nat.pow 2 32 := fits
    rw [numberAsNat_of_lt below, Except.map, Except.ok.injEq, and_iff_right fits]
  · have large : ¬ (0 ≤ (n : Int) ∧ (n : Int) < Nat.pow 2 32) := fun h => fits (Int.ofNat_lt.mp h.2)
    rw [numberAsNat, if_neg large]
    refine iff_of_false (fun read => ?_) fun h => fits h.1
    cases read

end Shape

end RackInventory
