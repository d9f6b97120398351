import RackInventory.Inventory.Datacenter
import RackInventory.Inventory.Infrastructure
import RackInventory.Proofs.Shape.Printed

/-!
# Documents whose numbers are read again

A document of a type remains one when its numbers are replaced by what their texts are read as:
integers stay as they are, and any double will do where a double is asked for. The name of a named
element stays the same.
-/

namespace RackInventory

open Json

theorem rereadMembers_eq (ms : Members) : rereadMembers ms = ms.map fun m => (m.1, m.2.reread) := by
  induction ms with
  | nil => rfl
  | cons m ms ih => rw [rereadMembers, ih, List.map_cons]

theorem ownMembers_reread (field : String) (aliases : List String) (ms : Members) :
    Fields.ownMembers field aliases (rereadMembers ms) =
      rereadMembers (Fields.ownMembers field aliases ms) := by
  rw [rereadMembers_eq, rereadMembers_eq, Fields.ownMembers, List.filter_map]
  rfl

theorem otherMembers_reread (field : String) (aliases : List String) (ms : Members) :
    Fields.otherMembers field aliases (rereadMembers ms) =
      rereadMembers (Fields.otherMembers field aliases ms) := by
  rw [rereadMembers_eq, rereadMembers_eq, Fields.otherMembers, List.filter_map]
  rfl

theorem holdDocuments_iff {ms : Members} : HoldDocuments ms ↔ ∀ m ∈ ms, m.2.IsDocument := by
  induction ms with
  | nil => exact iff_of_true trivial fun _ mem => absurd mem List.not_mem_nil
  | cons m ms ih => rw [HoldDocuments, ih, List.forall_mem_cons]

theorem reread_ne_null {v : Json} (h : v ≠ .null) : v.reread ≠ .null :=
  fun null => h (reread_eq_null null)

theorem decodeChoice_reread {α : Type} {cases : List (String × α)} {v : Json} {a : α}
    (read : decodeChoice cases v = .ok a) : decodeChoice cases v.reread = .ok a := by
  match v, read with
  | .string _, read => exact read
  | .object [(name, w)], read =>
    obtain ⟨b, known, null⟩ := bind_eq_ok_iff.mp read
    cases w with
    | null => exact read
    | _ => cases null

theorem decodeList_reread {α : Type} {item : Shape α}
    (each : ∀ v {a}, v.IsDocument → item.decode v = .ok a → ∃ b, item.decode v.reread = .ok b)
    {vs : List Json} {l : List α} (documents : AreDocuments vs)
    (read : (Shape.list item).decode (.array vs) = .ok l) :
    ∃ m, (Shape.list item).decode (.array (rereadItems vs)) = .ok m := by
  have decoded := Shape.decode_array_eq_ok_iff.mp read
  clear read
  induction decoded with
  | nil => exact ⟨[], rfl⟩
  | cons here _ ih =>
    obtain ⟨b, again⟩ := each _ documents.1 here
    obtain ⟨m, later⟩ := ih documents.2
    exact ⟨b :: m, Shape.decode_array_eq_ok_iff.mpr
      (.cons again (Shape.decode_array_eq_ok_iff.mp later))⟩

mutual

theorem Shape.decode_reread : ∀ {α : Type} (s : Shape α) {v : Json} {a : α}, v.IsDocument →
    s.decode v = .ok a → ∃ b, s.decode v.reread = .ok b
  | _, .string, v, a, _, read => by
    cases v with
    | string s => exact ⟨a, read⟩
    | _ => cases read
  | _, .u32, v, a, document, read => by
    cases v with
    | number n =>
      cases n with
      | integer n =>
        rw [reread, Number.reread_integer document]
        exact ⟨a, read⟩
      | float x => cases read
    | _ => cases read
  | _, .u64, v, a, document, read => by
    cases v with
    | number n =>
      cases n with
      | integer n =>
        rw [reread, Number.reread_integer document]
        exact ⟨a, read⟩
      | float x => cases read
    | _ => cases read
  | _, .f64, v, a, _, read => by
    cases v with
    | number n => exact ⟨_, rfl⟩
    | _ => cases read
  | _, .either name, v, a, document, read => by
    cases v with
    | string s => exact ⟨a, read⟩
    | number n =>
      cases n with
      | integer n =>
        rw [reread, Number.reread_integer document]
        exact ⟨a, read⟩
      | float x => cases read
    | _ => cases read
  | _, .choice cases _ _, v, a, _, read => ⟨a, decodeChoice_reread read⟩
  | _, .list item, v, l, document, read => by
    cases v with
    | array vs => exact decodeList_reread (fun v => item.decode_reread) document read
    | _ => cases read
  | _, .optional item, v, a, document, read => by
    by_cases null : v = .null
    · subst null
      exact ⟨none, rfl⟩
    · rw [Shape.decode_optional_of_ne_null null] at read
      obtain ⟨x, inner, -⟩ := bind_eq_ok_iff.mp read
      obtain ⟨y, again⟩ := item.decode_reread document inner
      refine ⟨some y, ?_⟩
      rw [Shape.decode_optional_of_ne_null (reread_ne_null null), again]
      rfl
  | _, .map s f _ _, v, a, document, read => by
    obtain ⟨x, inner, -⟩ := bind_eq_ok_iff.mp read
    obtain ⟨y, again⟩ := s.decode_reread document inner
    exact ⟨f y, bind_eq_ok_iff.mpr ⟨y, again, rfl⟩⟩
  | _, .record name fields, v, a, document, read => by
    cases v with
    | array vs =>
      obtain ⟨short, items⟩ := decode_items_eq_ok_iff.mp read
      obtain ⟨b, again⟩ := fields.decodeItems_reread document items
      rw [← length_rereadItems] at short
      exact ⟨b, decode_items_eq_ok_iff.mpr ⟨short, again⟩⟩
    | object ms =>
      obtain ⟨b, again⟩ := fields.hold_reread (holdDocuments_iff.mp document)
        (Shape.decode_object_eq_ok_iff.mp read)
      exact ⟨b, Shape.decode_object_eq_ok_iff.mpr again⟩
    | _ => cases read

theorem Fields.hold_reread : ∀ {α σ : Type} (fields : Fields α σ) {ms : Members} {a : α},
    (∀ m ∈ ms, m.2.IsDocument) → fields.Hold ms a → ∃ b, fields.Hold (rereadMembers ms) b
  | _, _, .nil, _, _, _, _ => ⟨(), trivial⟩
  | _, _, .cons field aliases shape absent more, ms, (a, b), documents, hold => by
    have left : ∀ m ∈ Fields.otherMembers field aliases ms, m.2.IsDocument := fun m mem =>
      documents m (List.mem_of_mem_filter mem)
    obtain ⟨y, others⟩ := more.hold_reread left hold.2
    rw [← otherMembers_reread] at others
    rcases hold.1 with ⟨empty, missing⟩ | ⟨m, own, read⟩
    · refine ⟨(a, y), .inl ⟨?_, missing⟩, others⟩
      rw [ownMembers_reread, empty]
      rfl
    · have document := documents m (List.mem_of_mem_filter (own ▸ List.mem_singleton_self m))
      obtain ⟨x, again⟩ := shape.decode_reread document read
      refine ⟨(x, y), .inr ⟨(m.1, m.2.reread), ?_, again⟩, others⟩
      rw [ownMembers_reread, own]
      rfl

theorem Fields.decodeItems_reread : ∀ {α σ : Type} (fields : Fields α σ) {record : String}
    {count index : Nat} {vs : List Json} {a : α}, AreDocuments vs →
    fields.decodeItems record count index vs = .ok a →
    ∃ b, fields.decodeItems record count index (rereadItems vs) = .ok b
  | _, _, .nil, _, _, _, _, _, _, _ => ⟨(), rfl⟩
  | _, _, .cons field aliases shape absent more, record, count, index, [], a, _, read => ⟨a, read⟩
  | _, _, .cons field aliases shape absent more, record, count, index, v :: vs, a, documents, read => by
    obtain ⟨x, here, later⟩ := bind_eq_ok_iff.mp read
    obtain ⟨y, inner, -⟩ := bind_eq_ok_iff.mp later
    obtain ⟨x, here⟩ := shape.decode_reread documents.1 here
    obtain ⟨y, inner⟩ := more.decodeItems_reread documents.2 inner
    exact ⟨(x, y), bind_eq_ok_iff.mpr ⟨x, here, bind_eq_ok_iff.mpr ⟨y, inner, rfl⟩⟩⟩

end

end RackInventory
