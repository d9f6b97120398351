import RackInventory.Proofs.Text.Utf8
import RackInventory.Proofs.Url.Encoding
import RackInventory.Url.Form

/-!
# A query of one pair is read back

What is written for a name or a value holds no separator, and reading it gives every text back:
blanks, separators, percent and plus signs, control characters and all that is not ASCII.

Queries that were not written here, with other escapes or ill-formed bytes, are left out.
-/

namespace RackInventory

namespace Form

/-- A plus sign stands for a blank. -/
def unplus (c : Char) : Char := if c = '+' then ' ' else c

theorem map_unplus_escape (b : UInt8) : (Percent.escape b).map unplus = Percent.escape b := by
  have digits : ∀ n < 16, unplus (Percent.hexDigit n) = Percent.hexDigit n := by decide
  obtain ⟨hi, hhi, lo, hlo, eq⟩ := Percent.escape_eq b
  rw [eq, List.map_cons, List.map_cons, List.map_cons, digits hi hhi, digits lo hlo]
  rfl

theorem apart_of_plain {c : Char} (h : plain c = true) (ascii : c.toNat < 0x80) :
    c ≠ '%' ∧ c ≠ '+' := by
  have all : ∀ n < 0x80, plain (Char.ofNat n) = true → Char.ofNat n ≠ '%' ∧ Char.ofNat n ≠ '+' := by
    decide
  exact Percent.forall_ascii (p := fun c => plain c = true → c ≠ '%' ∧ c ≠ '+') all ascii h

/-- A byte is written as a plus sign, as a character that stands for itself, or as an escape. -/
theorem encodeByte_cases (b : UInt8) :
    (b = 0x20 ∧ encodeByte b = ['+']) ∨
    (∃ c, c.toNat < 0x80 ∧ plain c = true ∧ b = UInt8.ofNat c.toNat ∧ encodeByte b = [c]) ∨
    encodeByte b = Percent.escape b := by
  unfold encodeByte Percent.encodeByte
  split
  · next blank => exact .inl ⟨blank, rfl⟩
  · split
    · next shown =>
      have values : ∀ n < 0x80, (Char.ofNat n).toNat = n := by decide
      have value := values b.toNat shown.1
      refine .inr (.inl ⟨Char.ofNat b.toNat, by omega, by simpa using shown.2, ?_, rfl⟩)
      rw [value, UInt8.ofNat_toNat]
    · exact .inr (.inr rfl)

theorem decode_encodeByte (b : UInt8) (rest : List Char) :
    Percent.decode ((encodeByte b).map unplus ++ rest) = b :: Percent.decode rest := by
  rcases encodeByte_cases b with ⟨rfl, eq⟩ | ⟨c, ascii, shown, rfl, eq⟩ | eq
  · rw [eq]
    exact Percent.decode_cons_of_ne (by decide) rest
  · obtain ⟨mark, plus⟩ := apart_of_plain shown ascii
    rw [eq, List.map_singleton, unplus, if_neg plus, List.singleton_append,
      Percent.decode_cons_of_ne mark, Percent.encodeChar_ascii ascii]
    rfl
  · rw [eq, map_unplus_escape, Percent.decode_escape]

/-- What is written is read back. -/
theorem decode_encode (s : List Char) : decode (encode s) = s := by
  have bytes : ∀ bs : List UInt8, Percent.decode ((bs.flatMap encodeByte).map unplus) = bs := by
    intro bs
    induction bs with
    | nil => rfl
    | cons b bs ih => rw [List.flatMap_cons, List.map_append, decode_encodeByte, ih]
  have read := bytes (Utf8.encode s)
  change Utf8.decodeLossy (Percent.decode ((encode s).map unplus)) = s
  rw [encode, read, Utf8.decodeLossy_encode]

/-- What is written holds characters that stand for themselves, plus signs and escapes. -/
theorem forall_mem_encode {p : Char → Prop} (plus : p '+') (escapes : Percent.Escapes p)
    (shown : ∀ n < 0x80, plain (Char.ofNat n) = true → p (Char.ofNat n)) {s : List Char} :
    ∀ c ∈ encode s, p c := by
  intro c mem
  obtain ⟨b, _, mem⟩ := List.mem_flatMap.mp mem
  rcases encodeByte_cases b with ⟨_, eq⟩ | ⟨d, ascii, itself, _, eq⟩ | eq
  · rw [eq, List.mem_singleton] at mem
    exact mem ▸ plus
  · rw [eq, List.mem_singleton] at mem
    rw [mem]
    exact Percent.forall_ascii (p := fun c => plain c = true → p c) shown ascii itself
  · obtain ⟨hi, hhi, lo, hlo, escape⟩ := Percent.escape_eq b
    rw [eq, escape] at mem
    simp only [List.mem_cons, List.not_mem_nil, or_false] at mem
    rcases mem with rfl | rfl | rfl
    · exact escapes.1
    · exact escapes.2 hi hhi
    · exact escapes.2 lo hlo

/-- What is written holds no separator. -/
theorem apart_of_mem_encode {s : List Char} {c : Char} (mem : c ∈ encode s) : c ≠ '&' ∧ c ≠ '=' :=
  forall_mem_encode (p := fun c => c ≠ '&' ∧ c ≠ '=') (by decide) ⟨by decide, by decide⟩
    (by decide) c mem

/-- A pair needs no encoding where it stands. -/
theorem kept_pair (name value : String) :
    Percent.Kept (Percent.querySet true) (pair name value).toList := by
  have part : ∀ s : List Char, Percent.Kept (Percent.querySet true) (encode s) := fun _ =>
    forall_mem_encode (by decide) ⟨by decide, by decide⟩ (by decide)
  intro c mem
  rw [pair, String.toList_ofList, List.mem_append, List.mem_cons] at mem
  rcases mem with mem | rfl | mem
  · exact part _ c mem
  · decide
  · exact part _ c mem

theorem mem_of_mem_split {d : Char} {s part : List Char} (mem : part ∈ split d s) {c : Char}
    (inside : c ∈ part) : c ∈ s := by
  induction s generalizing part with
  | nil =>
    rw [List.mem_singleton.mp mem] at inside
    exact inside
  | cons e rest ih =>
    unfold split at mem
    split at mem
    · rcases List.mem_cons.mp mem with rfl | mem
      · exact absurd inside List.not_mem_nil
      · exact List.mem_cons_of_mem e (ih mem inside)
    · split at mem
      · rw [List.mem_singleton.mp mem, List.mem_singleton] at inside
        exact inside ▸ List.mem_cons_self
      · next first more eq =>
        rcases List.mem_cons.mp mem with rfl | mem
        · rcases List.mem_cons.mp inside with rfl | inside
          · exact List.mem_cons_self
          · exact List.mem_cons_of_mem e (ih (eq ▸ List.mem_cons_self) inside)
        · exact List.mem_cons_of_mem e (ih (eq ▸ List.mem_cons_of_mem first mem) inside)

theorem split_of_whole {d : Char} {s : List Char} (whole : d ∉ s) : split d s = [s] := by
  induction s with
  | nil => rfl
  | cons c s ih =>
    rw [List.mem_cons, not_or] at whole
    rw [split, if_neg (fun eq => whole.1 eq.symm), ih whole.2]

theorem split_append {d : Char} {s : List Char} (whole : d ∉ s) (rest : List Char) :
    split d (s ++ d :: rest) = s :: split d rest := by
  induction s with
  | nil => rw [List.nil_append, split, if_pos rfl]
  | cons c s ih =>
    rw [List.mem_cons, not_or] at whole
    rw [List.cons_append, split, if_neg (fun eq => whole.1 eq.symm), ih whole.2]

theorem cut_append {d : Char} {s : List Char} (whole : d ∉ s) (rest : List Char) :
    cut d (s ++ d :: rest) = (s, rest) := by
  have other : ∀ c ∈ s, decide (c ≠ d) = true := fun c mem => decide_eq_true fun eq => whole (eq ▸ mem)
  rw [cut, List.takeWhile_append_of_pos other, List.dropWhile_append_of_pos other]
  simp

/-- Every pair is read back. -/
theorem pairs_pair (name value : String) : pairs (pair name value) = [(name, value)] := by
  have one : '&' ∉ encode name.toList ++ '=' :: encode value.toList := by
    rw [List.mem_append, List.mem_cons]
    rintro (mem | eq | mem)
    · exact (apart_of_mem_encode mem).1 rfl
    · exact absurd eq (by decide)
    · exact (apart_of_mem_encode mem).1 rfl
  have first : '=' ∉ encode name.toList := fun mem => (apart_of_mem_encode mem).2 rfl
  rw [pairs, pair, String.toList_ofList, split_of_whole one]
  simp [cut_append first, decode_encode]

end Form

end RackInventory
