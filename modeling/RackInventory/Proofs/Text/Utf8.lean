import RackInventory.Text.Utf8

/-!
# Texts are read back from their bytes

The bytes of a character are taken as one piece, whatever follows, so reading the bytes of a text
gives the text. Nothing is said of bytes that are no text.
-/

namespace RackInventory.Utf8

theorem encode_append (cs ds : List Char) : encode (cs ++ ds) = encode cs ++ encode ds :=
  List.flatMap_append

theorem toNat_byte {n : Nat} (h : n < 256) : (UInt8.ofNat n).toNat = n :=
  UInt8.toNat_ofNat_of_lt' h

/-- A further byte adds six bits. -/
theorem tail_further {d lo hi : Nat} (acc : Nat) (small : d < 64) (low : lo ≤ d + 128)
    (high : d + 128 ≤ hi) (more : Nat) (bs : List UInt8) :
    tail acc lo hi (more + 1) (UInt8.ofNat (d + 128) :: bs) =
      tail (acc * 64 + d) 0x80 0xBF more bs := by
  have value : (UInt8.ofNat (d + 128)).toNat = d + 128 := toNat_byte (by omega)
  have bits : (d + 128) % 64 = d := by omega
  rw [tail, value, if_pos ⟨low, high⟩, bits]

theorem step_of_lead {b : UInt8} {bs rest : List UInt8} {lo hi more n : Nat}
    (above : 0x80 ≤ b.toNat) (start : lead b = some (lo, hi, more))
    (read : tail (leadBits b more) lo hi more bs = (some n, rest)) :
    step b bs = (some (Char.ofNat n), rest) := by
  rw [step, if_neg (by omega), start]
  simp only [read]

theorem pieces_of_step {b : UInt8} {bs rest : List UInt8} {c : Char}
    (one : step b bs = (some c, rest)) : pieces (b :: bs) = some c :: pieces rest := by
  rw [pieces, one]

/-- The first byte of a character tells how many follow, and which the second may be. -/
theorem lead_two {a : Nat} (low : 2 ≤ a) (high : a < 32) :
    lead (UInt8.ofNat (a + 192)) = some (0x80, 0xBF, 1) := by
  rw [lead, toNat_byte (by omega)]
  simp only [show ¬ a + 192 < 0xC2 by omega, show a + 192 ≤ 0xDF by omega, if_true, if_false]

theorem lead_three {a b : Nat} (high : a < 16) (long : a = 0 → 32 ≤ b) (whole : a = 13 → b < 32)
    (small : b < 64) : ∃ lo hi, lead (UInt8.ofNat (a + 224)) = some (lo, hi, 2) ∧
      lo ≤ b + 128 ∧ b + 128 ≤ hi := by
  rw [lead, toNat_byte (by omega), if_neg (by omega), if_neg (by omega)]
  split
  · exact ⟨_, _, rfl, by omega, by omega⟩
  · split
    · exact ⟨_, _, rfl, by omega, by omega⟩
    · rw [if_pos (by omega)]
      exact ⟨_, _, rfl, by omega, by omega⟩

theorem lead_four {a b : Nat} (high : a ≤ 4) (long : a = 0 → 16 ≤ b) (known : a = 4 → b < 16)
    (small : b < 64) : ∃ lo hi, lead (UInt8.ofNat (a + 240)) = some (lo, hi, 3) ∧
      lo ≤ b + 128 ∧ b + 128 ≤ hi := by
  rw [lead, toNat_byte (by omega), if_neg (by omega), if_neg (by omega), if_neg (by omega), if_neg (by omega),
    if_neg (by omega)]
  split
  · exact ⟨_, _, rfl, by omega, by omega⟩
  · split
    · exact ⟨_, _, rfl, by omega, by omega⟩
    · rw [if_pos (by omega)]
      exact ⟨_, _, rfl, by omega, by omega⟩

/-- The bytes of a character are read as one piece. -/
theorem pieces_encodeChar (c : Char) (bs : List UInt8) :
    pieces (String.utf8EncodeChar c ++ bs) = some c :: pieces bs := by
  have range : c.val.toNat < 0xD800 ∨ 0xDFFF < c.val.toNat ∧ c.val.toNat < 0x110000 := c.valid
  have self : Char.ofNat c.val.toNat = c := Char.ofNat_toNat c
  unfold String.utf8EncodeChar
  generalize c.val.toNat = v at range self
  subst self
  dsimp only
  split
  · next one =>
    apply pieces_of_step
    rw [step, toNat_byte (by omega), if_pos (by omega)]
    rfl
  · next more =>
    split
    · apply pieces_of_step
      have start := lead_two (a := v / 64 % 32) (by omega) (by omega)
      refine step_of_lead (by rw [toNat_byte (by omega)]; omega) start ?_
      have bits : leadBits (UInt8.ofNat (v / 64 % 32 + 192)) 1 = v / 64 := by
        rw [leadBits, toNat_byte (by omega)]
        omega
      rw [bits]
      refine (tail_further _ (by omega) (by omega) (by omega) 0 bs).trans ?_
      rw [tail, Nat.div_add_mod']
    · split
      · apply pieces_of_step
        obtain ⟨lo, hi, start, low, high⟩ := lead_three (a := v / 4096 % 16) (b := v / 64 % 64)
          (by omega) (by omega) (by omega) (by omega)
        refine step_of_lead (by rw [toNat_byte (by omega)]; omega) start ?_
        have bits : leadBits (UInt8.ofNat (v / 4096 % 16 + 224)) 2 = v / 4096 := by
          rw [leadBits, toNat_byte (by omega)]
          omega
        rw [bits]
        refine (tail_further _ (by omega) low high 1 _).trans ?_
        refine (tail_further _ (by omega) (by omega) (by omega) 0 bs).trans ?_
        have sum : (v / 4096 * 64 + v / 64 % 64) * 64 + v % 64 = v := by omega
        rw [tail, sum]
      · apply pieces_of_step
        obtain ⟨lo, hi, start, low, high⟩ := lead_four (a := v / 262144 % 8) (b := v / 4096 % 64)
          (by omega) (by omega) (by omega) (by omega)
        refine step_of_lead (by rw [toNat_byte (by omega)]; omega) start ?_
        have bits : leadBits (UInt8.ofNat (v / 262144 % 8 + 240)) 3 = v / 262144 := by
          change (UInt8.ofNat (v / 262144 % 8 + 240)).toNat % 8 = _
          rw [toNat_byte (by omega)]
          omega
        rw [bits]
        refine (tail_further _ (by omega) low high 2 _).trans ?_
        refine (tail_further _ (by omega) (by omega) (by omega) 1 _).trans ?_
        refine (tail_further _ (by omega) (by omega) (by omega) 0 bs).trans ?_
        have sum : ((v / 262144 * 64 + v / 4096 % 64) * 64 + v / 64 % 64) * 64 + v % 64 = v := by
          omega
        rw [tail, sum]

theorem pieces_encode (cs : List Char) : pieces (encode cs) = cs.map some := by
  induction cs with
  | nil =>
    rw [encode, List.flatMap_nil, pieces]
    rfl
  | cons c cs ih =>
    change pieces (String.utf8EncodeChar c ++ encode cs) = _
    rw [pieces_encodeChar, ih, List.map_cons]

theorem decodeLossy_encode (cs : List Char) : decodeLossy (encode cs) = cs := by
  rw [decodeLossy, pieces_encode, List.map_map]
  exact List.map_id cs

/-- Different texts have different bytes. -/
theorem encode_inj {cs ds : List Char} : encode cs = encode ds ↔ cs = ds := by
  constructor
  · intro same
    have read := congrArg decodeLossy same
    rwa [decodeLossy_encode, decodeLossy_encode] at read
  · exact congrArg encode

theorem toString?_encode (cs : List Char) : toString? (encode cs) = some (String.ofList cs) := by
  have whole : ∀ ds : List Char, (ds.map some).mapM id = some ds := by
    intro ds
    induction ds with
    | nil => rfl
    | cons d ds ih =>
      rw [List.map_cons, List.mapM_cons, ih]
      rfl
  rw [toString?, decode?, pieces_encode, whole, Option.map_some]

end RackInventory.Utf8
