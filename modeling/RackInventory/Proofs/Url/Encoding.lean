import RackInventory.Proofs.Text.Utf8
import RackInventory.Url.Percent

/-!
# What percent-encoding leaves alone

A text that holds only ASCII characters, none of them reserved, is its own encoded form. What
encoding writes is of this kind when the percent sign and the digits are not reserved themselves, so
encoding a second time changes nothing. The set for single segments reserves the percent sign: there
the second encoding escapes what the first one wrote, and what is written can be read back.
-/

namespace RackInventory

/-- Whether a character is ASCII and neither a blank nor a control character. -/
def Url.isVisible (c : Char) : Bool := 0x20 < c.toNat && c.toNat < 0x7F

theorem Url.isVisible_iff {c : Char} : isVisible c = true ↔ 0x20 < c.toNat ∧ c.toNat < 0x7F := by
  rw [isVisible, Bool.and_eq_true, decide_eq_true_eq, decide_eq_true_eq]

namespace Percent

/-- A property of the ASCII characters can be checked one by one. -/
theorem forall_ascii {p : Char → Prop} (h : ∀ n < 0x80, p (Char.ofNat n)) {c : Char}
    (ascii : c.toNat < 0x80) : p c := by
  have here := h c.toNat ascii
  rwa [Char.ofNat_toNat] at here

/-- Whether a text is ASCII without reserved characters. -/
def Kept (reserved : Char → Bool) (s : List Char) : Prop :=
  ∀ c ∈ s, c.toNat < 0x80 ∧ reserved c = false

theorem Kept.tail {reserved : Char → Bool} {c : Char} {s : List Char}
    (h : Kept reserved (c :: s)) : Kept reserved s :=
  fun d mem => h d (List.mem_cons_of_mem c mem)

theorem encodeChar_ascii {c : Char} (h : c.toNat < 0x80) :
    String.utf8EncodeChar c = [UInt8.ofNat c.toNat] := by
  have small : c.val.toNat ≤ 0x7f := Nat.le_of_lt_succ h
  rw [String.utf8EncodeChar]
  exact if_pos small

theorem ofNat_toNat_ascii {c : Char} (h : c.toNat < 0x80) :
    Char.ofNat (UInt8.ofNat c.toNat).toNat = c := by
  rw [UInt8.toNat_ofNat', Nat.mod_eq_of_lt (by omega), Char.ofNat_toNat]

/-- The bytes of characters above ASCII are above ASCII too. -/
theorem eq_of_ascii_mem_encodeChar {c : Char} {b : UInt8} (mem : b ∈ String.utf8EncodeChar c)
    (h : b.toNat < 0x80) : c.toNat < 0x80 ∧ c = Char.ofNat b.toNat := by
  by_cases small : c.toNat < 0x80
  · rw [encodeChar_ascii small, List.mem_singleton] at mem
    subst mem
    exact ⟨small, (ofNat_toNat_ascii small).symm⟩
  · have large : ¬ c.val.toNat ≤ 0x7f := fun le => small (Nat.lt_succ_of_le le)
    simp only [String.utf8EncodeChar, large, if_false] at mem
    split at mem
    · simp only [List.mem_cons, List.not_mem_nil, or_false] at mem
      rcases mem with rfl | rfl <;> simp only [UInt8.toNat_ofNat'] at h <;> omega
    · split at mem
      · simp only [List.mem_cons, List.not_mem_nil, or_false] at mem
        rcases mem with rfl | rfl | rfl <;> simp only [UInt8.toNat_ofNat'] at h <;> omega
      · simp only [List.mem_cons, List.not_mem_nil, or_false] at mem
        rcases mem with rfl | rfl | rfl | rfl <;> simp only [UInt8.toNat_ofNat'] at h <;> omega

theorem encode_cons (reserved : Char → Bool) (c : Char) (s : List Char) :
    encode reserved (c :: s) =
      (String.utf8EncodeChar c).flatMap (encodeByte reserved) ++ encode reserved s := by
  rw [encode, Utf8.encode, List.flatMap_cons, List.flatMap_append]
  rfl

theorem encode_append (reserved : Char → Bool) (s t : List Char) :
    encode reserved (s ++ t) = encode reserved s ++ encode reserved t := by
  rw [encode, Utf8.encode, List.flatMap_append, List.flatMap_append]
  rfl

/-- What is written for an ASCII character. -/
theorem encode_ascii {reserved : Char → Bool} {c : Char} (h : c.toNat < 0x80) (s : List Char) :
    encode reserved (c :: s) =
      (if reserved c then escape (UInt8.ofNat c.toNat) else [c]) ++ encode reserved s := by
  have small : (UInt8.ofNat c.toNat).toNat < 0x80 := by
    rw [UInt8.toNat_ofNat']
    omega
  rw [encode_cons, encodeChar_ascii h, List.flatMap_singleton, encodeByte, ofNat_toNat_ascii h]
  cases reserved c with
  | false =>
    rw [if_pos ⟨small, rfl⟩]
    rfl
  | true =>
    rw [if_neg (by simp)]
    rfl

theorem encode_of_kept {reserved : Char → Bool} {s : List Char} (h : Kept reserved s) :
    encode reserved s = s := by
  induction s with
  | nil => rfl
  | cons c s ih =>
    obtain ⟨ascii, free⟩ := h c List.mem_cons_self
    rw [encode_ascii ascii, free, ih h.tail]
    rfl

theorem escape_eq (b : UInt8) :
    ∃ hi < 16, ∃ lo < 16, escape b = ['%', hexDigit hi, hexDigit lo] := by
  have bound := b.toNat_lt
  exact ⟨b.toNat / 16, by omega, b.toNat % 16, by omega, rfl⟩

/-- What is written is either a character that was there, or part of an escape. -/
theorem mem_encode {reserved : Char → Bool} {s : List Char} {c : Char}
    (mem : c ∈ encode reserved s) :
    (c ∈ s ∧ c.toNat < 0x80 ∧ reserved c = false) ∨ c = '%' ∨ ∃ n < 16, c = hexDigit n := by
  simp only [encode, Utf8.encode, List.mem_flatMap] at mem
  obtain ⟨b, ⟨d, hd, hb⟩, mem⟩ := mem
  unfold encodeByte at mem
  split at mem
  · next plain =>
    obtain ⟨ascii, eq⟩ := eq_of_ascii_mem_encodeChar hb plain.1
    rw [List.mem_singleton, ← eq] at mem
    subst mem
    exact Or.inl ⟨hd, ascii, by rw [eq]; exact plain.2⟩
  · obtain ⟨hi, hhi, lo, hlo, eq⟩ := escape_eq b
    rw [eq] at mem
    simp only [List.mem_cons, List.not_mem_nil, or_false] at mem
    rcases mem with rfl | rfl | rfl
    · exact Or.inr (Or.inl rfl)
    · exact Or.inr (Or.inr ⟨hi, hhi, rfl⟩)
    · exact Or.inr (Or.inr ⟨lo, hlo, rfl⟩)

/-- The characters of escapes: they are ASCII, and stand for themselves in most sets. -/
def Escapes (p : Char → Prop) : Prop := p '%' ∧ ∀ n < 16, p (hexDigit n)

theorem forall_mem_encode {reserved : Char → Bool} {p : Char → Prop} (escapes : Escapes p)
    {s : List Char} (h : ∀ c ∈ s, c.toNat < 0x80 → reserved c = false → p c) :
    ∀ c ∈ encode reserved s, p c := by
  intro c mem
  rcases mem_encode mem with ⟨here, ascii, free⟩ | rfl | ⟨n, hn, rfl⟩
  · exact h c here ascii free
  · exact escapes.1
  · exact escapes.2 n hn

theorem kept_encode {reserved : Char → Bool}
    (escapes : Escapes fun c => c.toNat < 0x80 ∧ reserved c = false) (s : List Char) :
    Kept reserved (encode reserved s) :=
  forall_mem_encode escapes fun _ _ ascii free => ⟨ascii, free⟩

theorem escapes_pathSet : Escapes fun c => c.toNat < 0x80 ∧ pathSet c = false :=
  ⟨by decide, by decide⟩

theorem escapes_userinfoSet : Escapes fun c => c.toNat < 0x80 ∧ userinfoSet c = false :=
  ⟨by decide, by decide⟩

/-- A text without escapes is the text of its own characters. -/
theorem decode_of_unescaped {s : List Char} (h : ∀ c ∈ s, c.toNat < 0x80 ∧ c ≠ '%') :
    decode s = s.map fun c => UInt8.ofNat c.toNat := by
  induction s with
  | nil => rfl
  | cons c s ih =>
    obtain ⟨ascii, plain⟩ := h c List.mem_cons_self
    rw [decode, ih fun d mem => h d (List.mem_cons_of_mem c mem), encodeChar_ascii ascii]
    · rfl
    · rintro a b rest rfl
      exact absurd rfl plain

theorem digitValue?_hexDigit : ∀ n < 16, digitValue? (hexDigit n) = some n := by decide

theorem decode_cons_of_ne {c : Char} (plain : c ≠ '%') (rest : List Char) :
    decode (c :: rest) = String.utf8EncodeChar c ++ decode rest := by
  rw [decode]
  rintro a b more rfl
  exact absurd rfl plain

theorem decode_escape (b : UInt8) (rest : List Char) : decode (escape b ++ rest) = b :: decode rest := by
  have bound := b.toNat_lt
  have value : b.toNat / 16 * 16 + b.toNat % 16 = b.toNat := Nat.div_add_mod' ..
  rw [escape, List.cons_append, List.cons_append, List.cons_append, List.nil_append, decode,
    digitValue?_hexDigit _ (by omega), digitValue?_hexDigit _ (by omega)]
  dsimp only
  rw [value, UInt8.ofNat_toNat]

theorem decode_encodeByte {reserved : Char → Bool} (mark : reserved '%' = true) (b : UInt8)
    (rest : List Char) : decode (encodeByte reserved b ++ rest) = b :: decode rest := by
  unfold encodeByte
  split
  · next shown =>
    have values : ∀ n < 0x80, (Char.ofNat n).toNat = n := by decide
    have value := values b.toNat shown.1
    have plain : Char.ofNat b.toNat ≠ '%' := by
      intro eq
      rw [eq, mark] at shown
      exact absurd shown.2 (by decide)
    rw [List.singleton_append, decode_cons_of_ne plain, encodeChar_ascii (by omega), value,
      UInt8.ofNat_toNat]
    rfl
  · exact decode_escape b rest

/-- When the percent sign is escaped too, every text is read back. -/
theorem decode_encode {reserved : Char → Bool} (mark : reserved '%' = true) (s : List Char) :
    decode (encode reserved s) = Utf8.encode s := by
  rw [encode]
  induction Utf8.encode s with
  | nil => rfl
  | cons b bytes ih => rw [List.flatMap_cons, decode_encodeByte mark, ih]

theorem encode_eq_nil_iff {reserved : Char → Bool} (mark : reserved '%' = true) {s : List Char} :
    encode reserved s = [] ↔ s = [] := by
  constructor
  · intro none
    have read := decode_encode mark s
    rw [none] at read
    exact Utf8.encode_inj.mp read.symm
  · rintro rfl
    rfl

/-- A character above ASCII has a byte that continues it. -/
theorem continuation_mem_encodeChar {c : Char} (above : 0x80 ≤ c.toNat) :
    ∃ b ∈ String.utf8EncodeChar c, 0x80 ≤ b.toNat ∧ b.toNat < 0xC0 := by
  have large : ¬ c.val.toNat ≤ 0x7f := Nat.not_le_of_gt above
  have last : ∀ n : Nat, 0x80 ≤ (UInt8.ofNat (n % 64 + 128)).toNat ∧
      (UInt8.ofNat (n % 64 + 128)).toNat < 0xC0 := by
    intro n
    rw [UInt8.toNat_ofNat']
    omega
  refine ⟨_, ?_, last c.val.toNat⟩
  simp only [String.utf8EncodeChar, large, if_false]
  split
  · simp
  · split <;> simp

theorem digitValue?_above {c : Char} (above : 0x80 ≤ c.toNat) : digitValue? c = none := by
  have bound : ∀ d : Char, d.toNat < 0x80 → ¬ c ≤ d := by
    intro d small le
    have order : c.toNat ≤ d.toNat := le
    omega
  rw [digitValue?, if_neg fun h => bound '9' (by decide) h.2,
    if_neg fun h => bound 'F' (by decide) h.2, if_neg fun h => bound 'f' (by decide) h.2]

/-- Nothing that is ASCII is read from a text with a character above. -/
theorem decode_above {s : List Char} {c : Char} (mem : c ∈ s) (above : 0x80 ≤ c.toNat) :
    ∃ b ∈ decode s, 0x80 ≤ b.toNat := by
  have plain : c ≠ '%' := by
    rintro rfl
    exact absurd above (by decide)
  fun_induction decode s with
  | case1 => exact absurd mem List.not_mem_nil
  | case2 a b rest x y hb ha ih =>
    have first : c ≠ a := by
      rintro rfl
      rw [digitValue?_above above] at ha
      cases ha
    have second : c ≠ b := by
      rintro rfl
      rw [digitValue?_above above] at hb
      cases hb
    simp only [List.mem_cons, plain, first, second, false_or] at mem
    obtain ⟨e, he, high⟩ := ih mem
    exact ⟨e, List.mem_cons_of_mem _ he, high⟩
  | case3 a b rest _ ih =>
    rcases List.mem_cons.mp mem with eq | mem
    · exact absurd eq plain
    · obtain ⟨e, he, high⟩ := ih mem
      exact ⟨e, List.mem_cons_of_mem _ he, high⟩
  | case4 d rest _ ih =>
    rcases List.mem_cons.mp mem with rfl | mem
    · obtain ⟨e, he, high, _⟩ := continuation_mem_encodeChar above
      exact ⟨e, List.mem_append_left _ he, high⟩
    · obtain ⟨e, he, high⟩ := ih mem
      exact ⟨e, List.mem_append_right _ he, high⟩

/-- The escapes of a character above ASCII hold a digit from eight on. -/
theorem encode_above {reserved : Char → Bool} {s : List Char} {c : Char} (mem : c ∈ s)
    (above : 0x80 ≤ c.toNat) :
    '%' ∈ encode reserved s ∧ ∃ d ∈ ['8', '9', 'A', 'B'], d ∈ encode reserved s := by
  obtain ⟨b, hb, low, high⟩ := continuation_mem_encodeChar above
  have written : ∀ d ∈ escape b, d ∈ encode reserved s := by
    intro d hd
    refine List.mem_flatMap.mpr ⟨b, List.mem_flatMap.mpr ⟨c, mem, hb⟩, ?_⟩
    rw [encodeByte, if_neg (by omega)]
    exact hd
  have digit : hexDigit (b.toNat / 16) ∈ ['8', '9', 'A', 'B'] := by
    have range : b.toNat / 16 = 8 ∨ b.toNat / 16 = 9 ∨ b.toNat / 16 = 10 ∨ b.toNat / 16 = 11 := by
      omega
    rcases range with eq | eq | eq | eq <;> rw [eq] <;> decide
  exact ⟨written '%' (by simp [escape]), _, digit, written _ (by simp [escape])⟩

end Percent

end RackInventory
