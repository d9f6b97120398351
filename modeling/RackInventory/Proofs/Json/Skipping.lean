import RackInventory.Proofs.Json.Values

/-!
# Printed values are passed over

Passing over a printed value leaves what stands behind it, however deep the value is. The steps are
counted against the bytes, so the bound that the reader sets itself is never reached.
-/

namespace RackInventory.Json

open Reader

variable {before before' : Bool} {stack stack' outer outer' : List Bracket} {front back : Bytes}

/-- The walk comes behind some bytes, with other brackets open, in at most two steps for each. -/
def Skips (before : Bool) (stack outer : List Bracket) (front : Bytes) : Prop :=
  ∃ k ≤ 2 * front.length, ∀ fuel rest, Ends rest →
    (skipFrom before stack (fuel + k)).run (front ++ rest) = (skipFrom false outer fuel).run rest

theorem skips_of_step (filled : front ≠ []) (step : ∀ fuel rest, Ends rest →
    (skipFrom before stack (fuel + 1)).run (front ++ rest) = (skipFrom false outer fuel).run rest) :
    Skips before stack outer front :=
  ⟨1, Nat.le_trans (List.length_pos_iff.2 filled) (Nat.le_mul_of_pos_left _ Nat.two_pos), step⟩

/-- One more step, over bytes in front. -/
theorem Skips.cons (rest : Skips before' stack' outer back) (front : Bytes) (filled : front ≠ [])
    (step : ∀ fuel rest, (skipFrom before stack (fuel + 1)).run (front ++ (back ++ rest)) =
      (skipFrom before' stack' fuel).run (back ++ rest)) :
    Skips before stack outer (front ++ back) := by
  obtain ⟨k, bound, run⟩ := rest
  have one := List.length_pos_iff.2 filled
  refine ⟨k + 1, by rw [List.length_append]; omega, fun fuel rest ends => ?_⟩
  rw [← Nat.add_assoc, List.append_assoc, step, run fuel rest ends]

/-- A walk in two parts. -/
theorem Skips.append (first : Skips before stack outer front) (second : Skips false outer outer' back)
    (ends : ∀ rest, Ends (back ++ rest)) : Skips before stack outer' (front ++ back) := by
  obtain ⟨k, bound, run⟩ := first
  obtain ⟨l, bound', run'⟩ := second
  refine ⟨l + k, by rw [List.length_append]; omega, fun fuel rest end_ => ?_⟩
  rw [← Nat.add_assoc, List.append_assoc, run _ _ (ends rest), run' fuel rest end_]

/-- The bytes of a member in front of its value. -/
def nameBytes (name : String) : Bytes := 0x22 :: (textTail name ++ [0x3A])

theorem nameBytes_append (name : String) (v : Json) (left : Bytes) :
    nameBytes name ++ (v.bytes ++ left) = 0x22 :: (memberBytes (name, v) ++ left) := by
  simp [nameBytes, memberBytes]

/-- A member is passed over up to its value. -/
theorem run_skipName (name : String) (left : Bytes) (next : Reader Unit) :
    (do skipName; next).run (nameBytes name ++ left) = next.run left := by
  have skip : skipName.Gives (0x22 :: (textTail name ++ 0x3A :: left)) () left :=
    (gives_peekToken rfl _).bind ((gives_advance 0x22 _).bind
      ((gives_skipText name _).bind (gives_colon left)))
  rw [nameBytes, List.cons_append, List.append_assoc]
  exact skip.run_bind

theorem skips_string (s : String) : Skips true stack stack (Json.string s).bytes := by
  refine skips_of_step (List.cons_ne_nil _ _) fun fuel rest _ => ?_
  exact (gives_peekToken rfl _).run_bind.trans ((gives_advance 0x22 _).run_bind.trans
    (gives_skipText s rest).run_bind)

theorem skips_number {n : Number} (document : n.IsDocument) :
    Skips true stack stack (Json.number n).bytes := by
  obtain ⟨negative, p, valid, written, -⟩ := n.exists_numeral document
  rw [bytes, print, written]
  cases negative with
  | true =>
    refine skips_of_step (List.cons_ne_nil _ _) fun fuel rest ends => ?_
    exact (gives_peekToken rfl _).run_bind.trans ((gives_advance 0x2D _).run_bind.trans
      (Numeral.gives_skip valid ends).run_bind)
  | false =>
    obtain ⟨d, small, left, eq⟩ := Numeral.first_of_numeral valid []
    rw [List.append_nil] at eq
    refine skips_of_step (eq ▸ List.cons_ne_nil _ _) fun fuel rest ends => ?_
    have skip := (Numeral.gives_skip valid ends).run_bind (f := fun _ => skipFrom false stack fuel)
    change (skipFrom true stack (fuel + 1)).run (Utf8.encode p.chars ++ rest) = _
    rw [eq] at skip ⊢
    rw [← skip]
    interval_cases d <;> exact (gives_peekToken rfl _).run_bind

mutual

theorem skips_value : ∀ (v : Json), v.IsDocument → ∀ stack, Skips true stack stack v.bytes
  | .null, _, _ => skips_of_step (List.cons_ne_nil _ _) fun _ _ _ => rfl
  | .bool true, _, _ => skips_of_step (List.cons_ne_nil _ _) fun _ _ _ => rfl
  | .bool false, _, _ => skips_of_step (List.cons_ne_nil _ _) fun _ _ _ => rfl
  | .number _, document, _ => skips_number document
  | .string s, _, _ => skips_string s
  | .array [], _, _ => skips_of_step (List.cons_ne_nil _ _) fun _ _ _ => rfl
  | .array (v :: vs), document, stack => by
    rw [bytes_array]
    obtain ⟨b, left, eq, start, -⟩ := exists_first document.1
    have items := (skips_value v document.1 (.list :: stack)).append
      (skips_list vs document.2 stack) (ends_listTail vs)
    refine items.cons [0x5B] (List.cons_ne_nil _ _) fun fuel rest => ?_
    rw [eq]
    refine (gives_peekToken rfl _).run_bind.trans ((gives_advance 0x5B _).run_bind.trans
      ((gives_peekToken start.full _).run_bind.trans ?_))
    split
    · exact absurd (asChar_inj (Option.some.inj ‹_›)) start.inside
    · rfl
    · contradiction
  | .object [], _, _ => skips_of_step (List.cons_ne_nil _ _) fun _ _ _ => rfl
  | .object ((name, v) :: ms), document, stack => by
    rw [bytes_object, objectBody, ← nameBytes_append]
    have members := (skips_value v document.1 (.object :: stack)).append
      (skips_object ms document.2 stack) (ends_objectTail ms)
    refine members.cons (0x7B :: nameBytes name) (List.cons_ne_nil _ _) fun fuel rest => ?_
    exact (gives_peekToken rfl _).run_bind.trans ((gives_advance 0x7B _).run_bind.trans
      ((gives_peekToken (b := 0x22) rfl _).run_bind.trans (run_skipName name _ _)))

theorem skips_list : ∀ (vs : List Json), AreDocuments vs → ∀ stack,
    Skips false (.list :: stack) stack (listTail vs)
  | [], _, _ => skips_of_step (List.cons_ne_nil _ _) fun _ _ _ => rfl
  | v :: vs, document, stack => by
    have items := (skips_value v document.1 (.list :: stack)).append
      (skips_list vs document.2 stack) (ends_listTail vs)
    exact items.cons [0x2C] (List.cons_ne_nil _ _) fun fuel rest => rfl

theorem skips_object : ∀ (ms : Members), HoldDocuments ms → ∀ stack,
    Skips false (.object :: stack) stack (objectTail ms)
  | [], _, _ => skips_of_step (List.cons_ne_nil _ _) fun _ _ _ => rfl
  | (name, v) :: ms, document, stack => by
    rw [objectTail, ← nameBytes_append]
    have members := (skips_value v document.1 (.object :: stack)).append
      (skips_object ms document.2 stack) (ends_objectTail ms)
    refine members.cons (0x2C :: nameBytes name) (List.cons_ne_nil _ _) fun fuel rest => ?_
    exact (gives_peekToken rfl _).run_bind.trans ((gives_advance 0x2C _).run_bind.trans
      (run_skipName name _ _))

end

/-- A printed value is passed over. -/
theorem gives_skipValue {v : Json} (document : v.IsDocument) {rest : Bytes} (ends : Ends rest) :
    skipValue.Gives (v.bytes ++ rest) () rest := by
  obtain ⟨k, bound, run⟩ := skips_value v document []
  obtain ⟨fuel, enough⟩ := Nat.exists_eq_add_of_le (show k + 1 ≤ 2 * ((v.bytes ++ rest).length + 1) by
    rw [List.length_append]
    omega)
  refine (gives_bound _).bind ?_
  rw [Gives, enough, show k + 1 + fuel = fuel + 1 + k by omega, run _ rest ends]
  rfl

end RackInventory.Json
