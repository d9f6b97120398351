import RackInventory.Text.Utf8

/-!
# The order of texts and the order of their bytes

A string is smaller than another when its characters are, and its UTF-8 form is smaller exactly
then: the first byte that differs belongs to the first character that differs.
-/

namespace RackInventory.Utf8

theorem cons_lt_cons_iff_nat {a b : Nat} (ha : a < 256) (hb : b < 256) (xs ys : List UInt8) :
    UInt8.ofNat a :: xs < UInt8.ofNat b :: ys ↔ a < b ∨ a = b ∧ xs < ys := by
  rw [List.cons_lt_cons_iff, UInt8.lt_iff_toNat_lt, ← UInt8.toNat_inj, UInt8.toNat_ofNat',
    UInt8.toNat_ofNat', Nat.mod_eq_of_lt ha, Nat.mod_eq_of_lt hb]

theorem cons_lt_cons_of_lt {a b : Nat} (h : a < b) (hb : b < 256) (xs ys : List UInt8) :
    UInt8.ofNat a :: xs < UInt8.ofNat b :: ys :=
  (cons_lt_cons_iff_nat (Nat.lt_trans h hb) hb xs ys).mpr (Or.inl h)

theorem append_lt_append {xs ys : List UInt8} (same : xs.length = ys.length) (h : xs < ys)
    (as bs : List UInt8) : xs ++ as < ys ++ bs := by
  induction xs generalizing ys with
  | nil =>
    cases ys with
    | nil => exact absurd h (List.not_lt_nil _)
    | cons y ys => cases same
  | cons x xs ih =>
    cases ys with
    | nil => cases same
    | cons y ys =>
      rw [List.cons_append, List.cons_append, List.cons_lt_cons_iff]
      rcases List.cons_lt_cons_iff.mp h with first | ⟨first, rest⟩
      · exact Or.inl first
      · exact Or.inr ⟨first, ih (Nat.succ.inj same) rest⟩

/-- The bytes of a smaller character are smaller, whatever follows. A longer form starts with a
greater byte; forms of one length are compared digit by digit. -/
theorem encodeChar_append_lt {c d : Char} (h : c < d) (xs ys : List UInt8) :
    String.utf8EncodeChar c ++ xs < String.utf8EncodeChar d ++ ys := by
  have below : c.val.toNat < d.val.toNat := h
  have bound : d.val.toNat < 0x110000 := by
    have := d.valid
    simp only [UInt32.isValidChar, Nat.isValidChar] at this
    omega
  unfold String.utf8EncodeChar
  generalize c.val.toNat = v at below
  generalize d.val.toNat = w at below bound
  dsimp only
  split
  · split
    · exact cons_lt_cons_of_lt below (by omega) _ _
    · split
      · exact cons_lt_cons_of_lt (by omega) (by omega) _ _
      · split <;> exact cons_lt_cons_of_lt (by omega) (by omega) _ _
  · split
    · rw [if_neg (by omega)]
      split
      · refine append_lt_append (by simp) ?_ xs ys
        simp (disch := omega) only [cons_lt_cons_iff_nat]
        omega
      · split <;> exact cons_lt_cons_of_lt (by omega) (by omega) _ _
    · rw [if_neg (show ¬ w ≤ 0x7f by omega), if_neg (show ¬ w ≤ 0x7ff by omega)]
      split
      · split
        · refine append_lt_append (by simp) ?_ xs ys
          simp (disch := omega) only [cons_lt_cons_iff_nat]
          omega
        · exact cons_lt_cons_of_lt (by omega) (by omega) _ _
      · rw [if_neg (by omega)]
        refine append_lt_append (by simp) ?_ xs ys
        simp (disch := omega) only [cons_lt_cons_iff_nat]
        have digits : ∀ n : Nat, n / 262144 = n / 64 / 64 / 64 ∧ n / 4096 = n / 64 / 64 := by
          intro n
          simp only [Nat.div_div_eq_div_mul, and_self]
        rw [(digits v).1, (digits v).2, (digits w).1, (digits w).2]
        omega

theorem encode_cons (c : Char) (cs : List Char) :
    encode (c :: cs) = String.utf8EncodeChar c ++ encode cs :=
  List.flatMap_cons

theorem encode_lt_of_lt {s t : List Char} (h : s < t) : encode s < encode t := by
  induction s generalizing t with
  | nil =>
    cases t with
    | nil => exact absurd h (List.not_lt_nil _)
    | cons d t =>
      obtain ⟨b, bs, eq⟩ := List.exists_cons_of_ne_nil (String.utf8EncodeChar_ne_nil (c := d))
      rw [encode_cons, eq]
      exact List.nil_lt_cons ..
  | cons c s ih =>
    cases t with
    | nil => exact absurd h (List.not_lt_nil _)
    | cons d t =>
      rw [encode_cons, encode_cons]
      rcases List.cons_lt_cons_iff.mp h with first | ⟨rfl, rest⟩
      · exact encodeChar_append_lt first _ _
      · exact List.append_left_lt (ih rest)

/-- Strings are ordered by their bytes. -/
theorem ofString_lt_iff {s t : String} : ofString s < ofString t ↔ s < t := by
  constructor
  · intro h
    by_cases lt : s < t
    · exact lt
    · by_cases gt : t < s
      · exact absurd (encode_lt_of_lt gt) (List.lt_asymm h)
      · have same : s = t := Std.le_antisymm (Std.not_lt.mp gt) (Std.not_lt.mp lt)
        exact absurd (same ▸ h) (List.lt_irrefl (ofString s))
  · exact encode_lt_of_lt

end RackInventory.Utf8
