import RackInventory.Json.Collection
import RackInventory.Proofs.Text.Utf8

/-!
# What a reader gives

A reader gives a value when it succeeds on some bytes, and leaves others. Most steps look at the next
byte or take it, so a reader that is put together from steps is described by one fact for each step.
-/

namespace RackInventory.Json.Reader

variable {α β : Type} {r : Reader α} {input rest left : Bytes} {a : α}

theorem toNat_asChar (b : UInt8) : (asChar b).toNat = b.toNat := by
  have valid : b.toNat.isValidChar := .inl (Nat.lt_trans b.toNat_lt (by decide))
  rw [asChar, Char.ofNat, dif_pos valid]
  rfl

/-- Different bytes have different characters. -/
theorem asChar_inj {b c : UInt8} (h : asChar b = asChar c) : b = c := by
  rw [← UInt8.toNat_inj, ← toNat_asChar b, h, toNat_asChar]

/-- A reader takes the front of some bytes for a value and leaves the rest. -/
def Gives (r : Reader α) (input : Bytes) (a : α) (rest : Bytes) : Prop :=
  r.run input = .ok (a, rest)

theorem Gives.run_bind {f : α → Reader β} (first : r.Gives input a left) :
    (r >>= f).run input = (f a).run left := by
  rw [StateT.run_bind, first]
  rfl

theorem Gives.bind {f : α → Reader β} {b : β} (first : r.Gives input a left)
    (second : (f a).Gives left b rest) : (r >>= f).Gives input b rest :=
  first.run_bind.trans second

theorem gives_pure (a : α) (input : Bytes) : (pure a : Reader α).Gives input a input := rfl

theorem Gives.map {f : α → β} (first : r.Gives input a rest) : (f <$> r).Gives input (f a) rest := by
  rw [Gives, StateT.run_map, first]
  rfl

theorem gives_get (input : Bytes) : (get : Reader Bytes).Gives input input input := rfl

theorem gives_set (input rest : Bytes) : (set rest : Reader PUnit).Gives input ⟨⟩ rest := rfl

theorem gives_bound (input : Bytes) : bound.Gives input (input.length + 1) input := rfl

theorem gives_advance (b : UInt8) (rest : Bytes) : advance.Gives (b :: rest) () rest := rfl

theorem gives_peek (b : UInt8) (rest : Bytes) :
    peek.Gives (b :: rest) (some (asChar b)) (b :: rest) := rfl

theorem gives_peekToken {b : UInt8} (full : isSpace b = false) (rest : Bytes) :
    peekToken.Gives (b :: rest) (some (asChar b)) (b :: rest) := by
  have kept : (b :: rest).dropWhile isSpace = b :: rest :=
    List.dropWhile_cons_of_neg (by simp [full])
  have first : (modify (·.dropWhile isSpace) : Reader PUnit).Gives (b :: rest) ⟨⟩ (b :: rest) := by
    change Except.ok (PUnit.unit, (b :: rest).dropWhile isSpace) = _
    rw [kept]
  exact first.bind (gives_peek b rest)

theorem gives_colon (rest : Bytes) : colon.Gives (0x3A :: rest) () rest :=
  (gives_peekToken rfl rest).bind (gives_advance 0x3A rest)

/-- A whole document is read. -/
theorem runWhole_of_gives (h : r.Gives input a []) : runWhole r input = .ok a := by
  rw [runWhole, h]
  rfl

end RackInventory.Json.Reader
