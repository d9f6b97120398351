import Mathlib.Tactic.SplitIfs
import RackInventory.Json.Printer
import RackInventory.Json.Skip
import RackInventory.Proofs.Json.Reading
import RackInventory.Proofs.Url.Encoding

/-!
# Texts inside quotation marks are read back

A character of a text is written as itself or as an escape of one piece. The loop that reads a text
and the loop that passes over one take both in the same steps, so one walk over the characters
serves both.
-/

namespace RackInventory.Json

open Reader

def PlainByte (b : UInt8) : Prop := b ≠ 0x22 ∧ b ≠ 0x5C ∧ 0x20 ≤ b.toNat

theorem plainByte_of_mem {c : Char} (plain : c ≠ '"' ∧ c ≠ '\\' ∧ 0x20 ≤ c.toNat) {b : UInt8}
    (mem : b ∈ String.utf8EncodeChar c) : PlainByte b := by
  by_cases ascii : b.toNat < 0x80
  · obtain ⟨_, rfl⟩ := Percent.eq_of_ascii_mem_encodeChar mem ascii
    refine ⟨?_, ?_, ?_⟩
    · rintro rfl
      exact plain.1 rfl
    · rintro rfl
      exact plain.2.1 rfl
    · have values : ∀ n < 0x80, (Char.ofNat n).toNat = n := by decide
      rw [← values b.toNat ascii]
      exact plain.2.2
  · refine ⟨?_, ?_, by omega⟩
    · rintro rfl
      exact ascii (by decide)
    · rintro rfl
      exact ascii (by decide)

/-- Four digits are read as a number. -/
theorem gives_hexEscape {w x y z : Nat} (hw : w < 16) (hx : x < 16) (hy : y < 16) (hz : z < 16)
    (rest : Bytes) :
    hexEscape.Gives (Utf8.encode ([w, x, y, z].map Nat.digitChar) ++ rest)
      (((w * 16 + x) * 16 + y) * 16 + z) rest := by
  have ascii : ∀ d < 16, (Nat.digitChar d).toNat < 0x80 := by decide
  have value : ∀ d < 16, hexDigit? (UInt8.ofNat (Nat.digitChar d).toNat) = some d := by decide
  have bytes : Utf8.encode ([w, x, y, z].map Nat.digitChar) =
      [w, x, y, z].map fun d => UInt8.ofNat (Nat.digitChar d).toNat := by
    simp [Utf8.encode, Percent.encodeChar_ascii, ascii, hw, hx, hy, hz]
  rw [bytes]
  refine (gives_get _).bind ((gives_set _ rest).bind ?_)
  rw [value w hw, value x hx, value y hy, value z hz]
  exact gives_pure _ rest

theorem gives_unicodeEscape {n : Nat} (h : n < 0x20) (rest : Bytes) :
    unicodeEscape.Gives
      (Utf8.encode ['0', '0', Nat.digitChar (n / 16), Nat.digitChar (n % 16)] ++ rest)
      (Char.ofNat n) rest := by
  have digits := gives_hexEscape (w := 0) (x := 0) (y := n / 16) (z := n % 16) (by omega) (by omega)
    (by omega) (by omega) rest
  have value : ((0 * 16 + 0) * 16 + n / 16) * 16 + n % 16 = n := by omega
  rw [value] at digits
  refine digits.bind ?_
  rw [if_neg (by omega), if_pos (by omega)]
  exact gives_pure _ rest

/-- A character is written as itself, or as an escape that is read and passed over as one piece. -/
theorem escapeChar_cases (c : Char) :
    escapeChar c = [c] ∧ (∀ b ∈ String.utf8EncodeChar c, PlainByte b) ∨
    ∃ e, escapeChar c = '\\' :: e ∧ ∀ rest,
      escaped.Gives (Utf8.encode e ++ rest) (String.utf8EncodeChar c) rest ∧
      skipEscape.Gives (Utf8.encode e ++ rest) () rest := by
  have self : Char.ofNat c.toNat = c := Char.ofNat_toNat c
  unfold escapeChar
  split_ifs with quote backslash lineFeed return_ tab backspace formFeed control
  · subst quote
    exact .inr ⟨_, rfl, fun rest => ⟨rfl, rfl⟩⟩
  · subst backslash
    exact .inr ⟨_, rfl, fun rest => ⟨rfl, rfl⟩⟩
  · subst lineFeed
    exact .inr ⟨_, rfl, fun rest => ⟨rfl, rfl⟩⟩
  · subst return_
    exact .inr ⟨_, rfl, fun rest => ⟨rfl, rfl⟩⟩
  · subst tab
    exact .inr ⟨_, rfl, fun rest => ⟨rfl, rfl⟩⟩
  · rw [backspace] at self
    subst self
    exact .inr ⟨_, rfl, fun rest => ⟨rfl, rfl⟩⟩
  · rw [formFeed] at self
    subst self
    exact .inr ⟨_, rfl, fun rest => ⟨rfl, rfl⟩⟩
  · refine .inr ⟨_, rfl, fun rest => ?_⟩
    have letter (bytes : Bytes) : textByte.Gives (0x75 :: bytes) 'u' bytes := rfl
    have char := gives_unicodeEscape control rest
    have digits := gives_hexEscape (w := 0) (x := 0) (y := c.toNat / 16) (z := c.toNat % 16)
      (by omega) (by omega) (by omega) (by omega) rest
    rw [self] at char
    have spelt : Utf8.encode [c] = String.utf8EncodeChar c := List.flatMap_singleton ..
    rw [← spelt]
    exact ⟨(letter _).bind (char.map (f := fun c => Utf8.encode [c])),
      (letter _).bind (digits.map (f := Function.const Nat ()))⟩
  · exact .inl ⟨rfl, fun b => plainByte_of_mem ⟨quote, backslash, Nat.le_of_not_lt control⟩⟩

/-- The bytes of a text behind its opening mark. -/
def textTail (s : String) : Bytes := Utf8.encode (s.toList.flatMap escapeChar ++ ['"'])

/-- A loop that takes a byte that stands for itself, or an escape, in one step. -/
structure TakesText {β : Type} (loop : (reversed : Bytes) → (fuel : Nat) → Reader β) : Prop where
  plain : ∀ {b : UInt8}, PlainByte b → ∀ reversed fuel rest,
    (loop reversed (fuel + 1)).run (b :: rest) = (loop (b :: reversed) fuel).run rest
  escape : ∀ {e bytes : Bytes}, (∀ rest, escaped.Gives (e ++ rest) bytes rest ∧
      skipEscape.Gives (e ++ rest) () rest) → ∀ reversed fuel rest,
    (loop reversed (fuel + 1)).run (0x5C :: e ++ rest) =
      (loop (bytes.reverse ++ reversed) fuel).run rest

theorem takesText_textBytes : TakesText textBytes where
  plain := by
    rintro b ⟨mark, backslash, visible⟩ reversed fuel rest
    have shown : ¬ b < 0x20 := by
      rw [UInt8.lt_iff_toNat_lt]
      exact Nat.not_lt.2 visible
    change (ite (b = 0x22) (pure reversed) (ite (b = 0x5C)
      (escaped >>= fun bytes => textBytes (bytes.reverse ++ reversed) fuel)
      (ite (b < 0x20) (fail .controlCharacter) (textBytes (b :: reversed) fuel)))).run rest = _
    rw [if_neg mark, if_neg backslash, if_neg shown]
  escape := by
    intro e bytes read reversed fuel rest
    change (escaped >>= fun bytes => textBytes (bytes.reverse ++ reversed) fuel).run (e ++ rest) = _
    rw [StateT.run_bind, (read rest).1]
    rfl

theorem takesText_skip : TakesText fun _ => skipTextBytes where
  plain := by
    rintro b ⟨mark, backslash, visible⟩ reversed fuel rest
    have code := toNat_asChar b
    have first : next.run (b :: rest) = .ok (some (asChar b), rest) := rfl
    rw [skipTextBytes, StateT.run_bind, first]
    dsimp only [bind, Except.bind]
    split
    · contradiction
    · rename_i eq
      injection eq with eq
      rw [eq] at code
      exact absurd (UInt8.toNat_inj.1 code.symm) mark
    · rename_i eq
      injection eq with eq
      rw [eq] at code
      exact absurd (UInt8.toNat_inj.1 code.symm) backslash
    · rename_i eq
      injection eq with eq
      rw [← eq, if_neg]
      rw [Char.lt_def, UInt32.lt_iff_toNat_lt]
      exact Nat.not_lt.2 (code.symm ▸ visible : 0x20 ≤ (asChar b).toNat)
  escape := by
    intro e bytes read reversed fuel rest
    change (skipEscape >>= fun _ => skipTextBytes fuel).run (e ++ rest) = _
    rw [StateT.run_bind, (read rest).2]
    rfl

namespace TakesText

variable {β : Type} {loop : (reversed : Bytes) → (fuel : Nat) → Reader β}

theorem run_plain (h : TakesText loop) {bs : Bytes} (plain : ∀ b ∈ bs, PlainByte b)
    (reversed : Bytes) (fuel : Nat) (rest : Bytes) :
    (loop reversed (fuel + bs.length)).run (bs ++ rest) =
      (loop (bs.reverse ++ reversed) fuel).run rest := by
  induction bs generalizing reversed with
  | nil => rfl
  | cons b bs ih =>
    rw [List.forall_mem_cons] at plain
    rw [List.length_cons, ← Nat.add_assoc, List.cons_append, h.plain plain.1, ih plain.2]
    simp

/-- The steps of one character are not more than its bytes. -/
theorem run_char (h : TakesText loop) (c : Char) :
    ∃ k ≤ (Utf8.encode (escapeChar c)).length, ∀ reversed fuel rest,
      (loop reversed (fuel + k)).run (Utf8.encode (escapeChar c) ++ rest) =
        (loop ((String.utf8EncodeChar c).reverse ++ reversed) fuel).run rest := by
  rcases escapeChar_cases c with ⟨eq, plain⟩ | ⟨e, eq, read⟩
  · have bytes : Utf8.encode [c] = String.utf8EncodeChar c := List.flatMap_singleton ..
    rw [eq, bytes]
    exact ⟨_, Nat.le_refl _, h.run_plain plain⟩
  · rw [eq]
    exact ⟨1, Nat.succ_le_succ (Nat.zero_le _), h.escape read⟩

theorem run_chars (h : TakesText loop) (cs : List Char) :
    ∃ k ≤ (Utf8.encode (cs.flatMap escapeChar)).length, ∀ reversed fuel rest,
      (loop reversed (fuel + k)).run (Utf8.encode (cs.flatMap escapeChar) ++ rest) =
        (loop ((Utf8.encode cs).reverse ++ reversed) fuel).run rest := by
  induction cs with
  | nil => exact ⟨0, Nat.zero_le _, fun _ _ _ => rfl⟩
  | cons c cs ih =>
    obtain ⟨k, hk, one⟩ := h.run_char c
    obtain ⟨m, hm, more⟩ := ih
    rw [List.flatMap_cons, Utf8.encode_append]
    refine ⟨m + k, by rw [List.length_append]; omega, ?_⟩
    intro reversed fuel rest
    have bytes : Utf8.encode (c :: cs) = String.utf8EncodeChar c ++ Utf8.encode cs :=
      List.flatMap_cons ..
    rw [← Nat.add_assoc, List.append_assoc, one, more, bytes, List.reverse_append,
      List.append_assoc]

/-- The characters of a text are taken, and its closing mark is next. -/
theorem run_tail (h : TakesText loop) (s : String) (rest : Bytes) :
    ∃ fuel, (loop [] ((textTail s ++ rest).length + 1)).run (textTail s ++ rest) =
      (loop (Utf8.ofString s).reverse (fuel + 1)).run (0x22 :: rest) := by
  obtain ⟨k, hk, chars⟩ := h.run_chars s.toList
  have spelt : textTail s = Utf8.encode (s.toList.flatMap escapeChar) ++ [0x22] :=
    Utf8.encode_append ..
  obtain ⟨fuel, enough⟩ := Nat.exists_eq_add_of_le (show k + 1 ≤ (textTail s ++ rest).length + 1 by
    rw [spelt, List.length_append, List.length_append]
    omega)
  refine ⟨fuel, ?_⟩
  rw [enough, show k + 1 + fuel = fuel + 1 + k by omega, spelt, List.append_assoc, chars,
    List.append_nil]
  rfl

end TakesText

theorem gives_text (s : String) (rest : Bytes) : text.Gives (textTail s ++ rest) s rest := by
  obtain ⟨fuel, chars⟩ := takesText_textBytes.run_tail s rest
  have bytes : (textBytes [] ((textTail s ++ rest).length + 1)).Gives (textTail s ++ rest)
      (Utf8.ofString s).reverse rest := chars
  refine (gives_bound _).bind (bytes.bind ?_)
  rw [List.reverse_reverse, Utf8.ofString, Utf8.toString?_encode, String.ofList_toList]
  exact gives_pure _ rest

theorem gives_skipText (s : String) (rest : Bytes) : skipText.Gives (textTail s ++ rest) () rest := by
  obtain ⟨fuel, chars⟩ := takesText_skip.run_tail s rest
  exact (gives_bound _).bind chars

end RackInventory.Json
