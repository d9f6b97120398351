import RackInventory.Proofs.Url.Encoding
import RackInventory.Proofs.View.Searching

/-!
# Searching ASCII text

An ASCII text has one byte for each character and is lowered letter by letter, whatever stands
around a letter. So a query is found in it exactly when the bytes of the query stand somewhere in
the text, the case of letters aside. The case in which either of the two is written does not matter,
and a longer query is found in fewer texts.

Nothing is said about the place at which a query is found first.
-/

namespace RackInventory

def IsAscii (s : String) : Prop := ∀ c ∈ s.toList, c.toNat < 0x80

instance (s : String) : Decidable (IsAscii s) :=
  List.decidableBAll (fun c : Char => c.toNat < 0x80) s.toList

def IsCapital (b : UInt8) : Prop := 0x41 ≤ b ∧ b ≤ 0x5A

instance (b : UInt8) : Decidable (IsCapital b) := inferInstanceAs (Decidable (_ ∧ _))

/-- Whether two bytes are equal, or the capital and the small form of one letter. -/
def SameLetter (a b : UInt8) : Prop :=
  a = b ∨ (IsCapital a ∧ b = a + 0x20) ∨ (IsCapital b ∧ a = b + 0x20)

instance (a b : UInt8) : Decidable (SameLetter a b) := inferInstanceAs (Decidable (_ ∨ _))

/-- Whether two texts differ in the case of letters at most. -/
def SameButCase (s t : String) : Prop :=
  List.Forall₂ SameLetter (Utf8.ofString s) (Utf8.ofString t)

instance (s t : String) : Decidable (SameButCase s t) :=
  inferInstanceAs (Decidable (List.Forall₂ SameLetter _ _))

/-- Whether a query stands in a text from the byte `i` on, the case of letters aside. -/
structure StandsAt (text query : Bytes) (i : Nat) : Prop where
  fits : i + query.length ≤ text.length
  same : ∀ j (_ : j < query.length), SameLetter query[j] text[i + j]

theorem SameLetter.small {a b : UInt8} (letter : SameLetter a b) (small : a.toNat < 0x80) :
    b.toNat < 0x80 := by
  simp only [SameLetter, IsCapital, ← UInt8.toNat_inj, UInt8.le_iff_toNat_le, UInt8.toNat_add,
    UInt8.toNat_ofNat] at letter
  omega

theorem occursIn_iff_within {α : Type} [BEq α] [LawfulBEq α] {part whole : List α} :
    occursIn part whole = true ↔ part <:+: whole := by
  rw [occursIn_iff]
  constructor
  · rintro ⟨before, after, rfl⟩
    exact List.infix_append before part after
  · rintro ⟨before, after, rfl⟩
    exact ⟨before, after, rfl⟩

abbrev asciiByte (c : Char) : UInt8 := UInt8.ofNat c.toNat

namespace Lowercase

theorem toNat_asciiLower {c : Char} (ascii : c.toNat < 0x80) :
    (asciiLower c).toNat =
      if 0x41 ≤ c.toNat ∧ c.toNat ≤ 0x5A then c.toNat + 0x20 else c.toNat :=
  Percent.forall_ascii (p := fun c => (asciiLower c).toNat =
    if 0x41 ≤ c.toNat ∧ c.toNat ≤ 0x5A then c.toNat + 0x20 else c.toNat) (by decide) ascii

/-- The bytes of two characters are the same letter when the characters have the same lower-case
form. -/
theorem sameLetter_iff {c d : Char} (asciiC : c.toNat < 0x80) (asciiD : d.toNat < 0x80) :
    SameLetter (asciiByte c) (asciiByte d) ↔ asciiLower c = asciiLower d := by
  have lowered : asciiLower c = asciiLower d ↔ (asciiLower c).toNat = (asciiLower d).toNat :=
    Char.toNat_inj.symm
  rw [lowered, toNat_asciiLower asciiC, toNat_asciiLower asciiD]
  simp only [SameLetter, IsCapital, ← UInt8.toNat_inj, UInt8.le_iff_toNat_le, UInt8.toNat_add,
    UInt8.toNat_ofNat', UInt8.toNat_ofNat]
  split <;> split <;> omega

theorem lowerAt_ascii {c : Char} (ascii : c.toNat < 0x80) (before after : List Char) :
    lowerAt before c after = [asciiLower c] := by
  have noSigma : c ≠ 'Σ' := by
    rintro rfl
    exact absurd ascii (by decide)
  have noDot : c ≠ 'İ' := by
    rintro rfl
    exact absurd ascii (by decide)
  rw [lowerAt, if_neg noSigma, if_neg noDot, simple, if_pos ascii]

theorem lower_ascii {cs : List Char} (ascii : ∀ c ∈ cs, c.toNat < 0x80) :
    lower cs = cs.map asciiLower := by
  have from_ : ∀ before, lowerFrom before cs = cs.map asciiLower := by
    induction cs with
    | nil => exact fun _ => rfl
    | cons c cs ih =>
      obtain ⟨first, rest⟩ := List.forall_mem_cons.mp ascii
      intro before
      rw [lowerFrom, lowerAt_ascii first, ih rest]
      rfl
  exact from_ []

theorem map_asciiLower_eq {cs ds : List Char} (asciiC : ∀ c ∈ cs, c.toNat < 0x80)
    (asciiD : ∀ d ∈ ds, d.toNat < 0x80)
    (same : List.Forall₂ (fun c d => SameLetter (asciiByte c) (asciiByte d)) cs ds) :
    ds.map asciiLower = cs.map asciiLower := by
  induction same with
  | nil => rfl
  | cons letter _ ih =>
    obtain ⟨firstC, restC⟩ := List.forall_mem_cons.mp asciiC
    obtain ⟨firstD, restD⟩ := List.forall_mem_cons.mp asciiD
    rw [List.map_cons, List.map_cons, ih restC restD, (sameLetter_iff firstC firstD).mp letter]

end Lowercase

namespace IsAscii

variable {s t : String}

theorem bytes (ascii : IsAscii s) : Utf8.ofString s = s.toList.map asciiByte := by
  rw [Utf8.ofString, Utf8.encode, List.map_eq_flatMap]
  exact List.flatMap_congr fun c mem => Percent.encodeChar_ascii (ascii c mem)

theorem decided (ascii : IsAscii s) : Lowercase.Decided s.toList :=
  Lowercase.decided_of_not_mem fun sigma => absurd (ascii 'Σ' sigma) (by decide)

/-- The bytes of an ASCII text tell that it is one. -/
theorem of_bytes (small : ∀ b ∈ Utf8.ofString s, b.toNat < 0x80) : IsAscii s := by
  intro c mem
  obtain ⟨b, rest, eq⟩ := List.exists_cons_of_ne_nil (String.utf8EncodeChar_ne_nil (c := c))
  have first : b ∈ String.utf8EncodeChar c := eq ▸ List.mem_cons_self
  exact (Percent.eq_of_ascii_mem_encodeChar first
    (small b (List.mem_flatMap.mpr ⟨c, mem, first⟩))).1

theorem of_sameButCase (ascii : IsAscii s) (same : SameButCase s t) : IsAscii t := by
  have small : ∀ a ∈ Utf8.ofString s, a.toNat < 0x80 := by
    intro a mem
    rw [ascii.bytes, List.mem_map] at mem
    obtain ⟨c, mem, rfl⟩ := mem
    rw [Utf8.toNat_byte (Nat.lt_trans (ascii c mem) (by decide))]
    exact ascii c mem
  apply of_bytes
  rw [SameButCase] at same
  generalize Utf8.ofString s = xs, Utf8.ofString t = ys at small same
  induction same with
  | nil => exact fun b mem => absurd mem List.not_mem_nil
  | cons letter _ ih =>
    obtain ⟨first, rest⟩ := List.forall_mem_cons.mp small
    exact List.forall_mem_cons.mpr ⟨letter.small first, ih rest⟩

/-- Texts that differ in the case of letters have the same lower-case form. -/
theorem lower_eq (ascii : IsAscii s) (same : SameButCase s t) :
    Lowercase.lower t.toList = Lowercase.lower s.toList := by
  have asciiT := ascii.of_sameButCase same
  rw [SameButCase, ascii.bytes, asciiT.bytes, List.forall₂_map_left_iff,
    List.forall₂_map_right_iff] at same
  rw [Lowercase.lower_ascii ascii, Lowercase.lower_ascii asciiT]
  exact Lowercase.map_asciiLower_eq ascii asciiT same

end IsAscii

theorem occursIn_of_occursIn {α : Type} [BEq α] [LawfulBEq α] {part middle whole : List α}
    (inner : occursIn part middle = true) (outer : occursIn middle whole = true) :
    occursIn part whole = true := by
  rw [occursIn_iff_within] at inner outer ⊢
  exact inner.trans outer

/-- A query stands where the lower-case form of it stands in that of the text. -/
theorem exists_standsAt_iff {text query : List Char} (asciiT : ∀ c ∈ text, c.toNat < 0x80)
    (asciiQ : ∀ c ∈ query, c.toNat < 0x80) :
    (∃ i, StandsAt (text.map asciiByte) (query.map asciiByte) i) ↔
      query.map Lowercase.asciiLower <:+: text.map Lowercase.asciiLower := by
  have letter : ∀ i j (inside : j < query.length) (fits : i + j < text.length),
      SameLetter (asciiByte query[j]) (asciiByte text[i + j]) ↔
        (text.map Lowercase.asciiLower)[j + i]? = some (Lowercase.asciiLower query[j]) := by
    intro i j inside fits
    rw [Lowercase.sameLetter_iff (asciiQ _ (List.getElem_mem inside))
      (asciiT _ (List.getElem_mem fits)), Nat.add_comm j i, List.getElem?_map,
      List.getElem?_eq_getElem fits, Option.map_some, Option.some.injEq, eq_comm]
  rw [List.infix_iff_getElem?]
  constructor
  · rintro ⟨i, fits, same⟩
    simp only [List.length_map, List.getElem_map] at fits same
    refine ⟨i, by simpa [Nat.add_comm] using fits, ?_⟩
    simp only [List.length_map, List.getElem_map]
    exact fun j inside => (letter i j inside (by omega)).mp (same j inside)
  · rintro ⟨i, fits, same⟩
    simp only [List.length_map, List.getElem_map] at fits same
    refine ⟨i, by simpa [Nat.add_comm] using fits, ?_⟩
    simp only [List.length_map, List.getElem_map]
    exact fun j inside => (letter i j inside (by omega)).mpr (same j inside)

/-- On ASCII text the search tells whether the bytes of the query stand somewhere in the text, the
case of letters aside. Writing either of the two in another case makes no difference, the empty
query is found everywhere, and what is found is found when the query is cut short at either end. -/
theorem containsIgnoringCase_ascii {text query : String} (asciiT : IsAscii text)
    (asciiQ : IsAscii query) :
    (containsIgnoringCase text query = true ↔
      ∃ i, StandsAt (Utf8.ofString text) (Utf8.ofString query) i) ∧
    (∀ t q, SameButCase text t → SameButCase query q →
      containsIgnoringCase t q = containsIgnoringCase text query) ∧
    containsIgnoringCase text "" = true ∧
    ∀ before after, containsIgnoringCase text (before ++ query ++ after) = true →
      containsIgnoringCase text query = true := by
  refine ⟨?_, ?_, containsIgnoringCase_empty text, ?_⟩
  · rw [containsIgnoringCase, occursIn_iff_within, Lowercase.lower_ascii asciiT,
      Lowercase.lower_ascii asciiQ, asciiT.bytes, asciiQ.bytes, exists_standsAt_iff asciiT asciiQ]
  · intro t q sameT sameQ
    rw [containsIgnoringCase, asciiT.lower_eq sameT, asciiQ.lower_eq sameQ, containsIgnoringCase]
  · intro before after found
    rw [containsIgnoringCase, String.toList_append, String.toList_append] at found
    exact occursIn_of_occursIn (Lowercase.occursIn_of_decided asciiQ.decided _ _) found

/-- A query in other capitals stands at the end of the name. -/
theorem capitals_found :
    IsAscii "CN-gpu1" ∧ IsAscii "GPU1" ∧ SameButCase "CN-gpu1" "cn-GPU1" ∧
      containsIgnoringCase "CN-gpu1" "GPU1" = true ∧
      containsIgnoringCase "cn-GPU1" "GPU1" = true := by
  have ascii : IsAscii "CN-gpu1" ∧ IsAscii "GPU1" := by decide
  have same : SameButCase "CN-gpu1" "cn-GPU1" ∧ SameButCase "GPU1" "GPU1" := by decide
  have search := containsIgnoringCase_ascii ascii.1 ascii.2
  have found := search.1.mpr ⟨3, by decide, by decide⟩
  exact ⟨ascii.1, ascii.2, same.1, found, (search.2.1 _ _ same.1 same.2).trans found⟩

end RackInventory
