import RackInventory.Proofs.Text.Trimming
import RackInventory.Proofs.Url.Tail

/-!
# Blanks around an address

Reading ignores the blanks of ASCII around an address but no others. When the other blanks are taken
away first, an address that was read before is still read, with the same scheme. Its path can only
lose what the blanks at its end had been encoded to.
-/

namespace RackInventory

namespace Url

theorem trimmed_append_cons {pre : List Char} (control : ∀ c ∈ pre, c.toNat ≤ 0x20) {x : Char}
    (high : 0x20 < x.toNat) (rest : List Char) :
    trimmed (pre ++ x :: rest) = x :: rest.rdropWhile (·.toNat ≤ 0x20) := by
  have plain : decide (x.toNat ≤ 0x20) = false := by
    rw [decide_eq_false_iff_not]
    omega
  rw [trimmed, trimBoth_append_cons (p := fun c : Char => decide (c.toNat ≤ 0x20)) plain,
    List.dropWhile_eq_nil_iff.mpr (by simpa using control)]
  rfl

/-- What the other blanks leave of an address is the front of what was read before. -/
theorem trimmed_blanks {pre : List Char} (control : ∀ c ∈ pre, c.toNat ≤ 0x20) {x : Char}
    (visible : isVisible x = true) (rest : List Char) :
    ∃ behind, trimmed (pre ++ x :: rest) = trimmed (trimBoth isBlank (pre ++ x :: rest)) ++ behind ∧
      (behind = [] ∨ Tail (behind.filter (!Segment.isIgnored ·))) := by
  rw [isVisible_iff] at visible
  have full : isBlank x = false := by
    rw [← Bool.not_eq_true]
    intro blank
    have range := apart_of_isBlank blank
    omega
  have left : ∀ c ∈ pre.dropWhile isBlank, c.toNat ≤ 0x20 :=
    fun c mem => control c ((List.dropWhile_suffix _).mem mem)
  obtain ⟨kept, hkept⟩ : ∃ kept, kept = (rest.rdropWhile isBlank).rdropWhile (·.toNat ≤ 0x20) :=
    ⟨_, rfl⟩
  obtain ⟨lost, hlost⟩ : ∃ lost, lost = (rest.rdropWhile isBlank).rtakeWhile (·.toNat ≤ 0x20) ++
      rest.rtakeWhile isBlank := ⟨_, rfl⟩
  have parts : rest = kept ++ lost := by
    rw [hkept, hlost, ← List.append_assoc, List.rdropWhile_append_rtakeWhile,
      List.rdropWhile_append_rtakeWhile]
  have finished : kept.rdropWhile (·.toNat ≤ 0x20) = kept := by
    rw [hkept, List.rdropWhile_idempotent]
  refine ⟨lost.rdropWhile (·.toNat ≤ 0x20), ?_, ?_⟩
  · rw [trimmed_append_cons control visible.1, trimBoth_append_cons full,
      trimmed_append_cons left visible.1, ← hkept, List.cons_append,
      ← rdropWhile_append_of_self finished, ← parts]
  · by_cases none : lost.rdropWhile (·.toNat ≤ 0x20) = []
    · exact Or.inl none
    · right
      have apart : ∀ c ∈ lost.rdropWhile (·.toNat ≤ 0x20), c.toNat ≤ 0x20 ∨ 0x80 ≤ c.toNat := by
        intro c mem
        have inside : c ∈ lost := (List.rdropWhile_prefix _ _).mem mem
        rw [hlost, List.mem_append] at inside
        rcases inside with low | blank
        · exact Or.inl (by simpa using List.mem_rtakeWhile_imp low)
        · exact apart_of_isBlank (List.mem_rtakeWhile_imp blank)
      refine ⟨fun c mem => apart c (List.mem_of_mem_filter mem), ?_⟩
      obtain ⟨c, hc⟩ : ∃ c, c = (lost.rdropWhile (·.toNat ≤ 0x20)).getLast none := ⟨_, rfl⟩
      have mem : c ∈ lost.rdropWhile (·.toNat ≤ 0x20) := hc ▸ List.getLast_mem none
      have high : ¬ c.toNat ≤ 0x20 := by
        have last := List.rdropWhile_last_not _ lost none
        rw [← hc] at last
        simpa using last
      refine ⟨c, List.mem_filter.mpr ⟨mem, ?_⟩, (apart c mem).resolve_left high⟩
      rw [Segment.not_isIgnored (Nat.lt_of_not_le high)]
      rfl

theorem visible_of_isAlpha {c : Char} (letter : c.isAlpha = true) : isVisible c = true := by
  change (decide (c.val ≥ 'A'.val ∧ c.val ≤ 'Z'.val) ||
    decide (c.val ≥ 'a'.val) && decide (c.val ≤ 'z'.val)) = true at letter
  simp only [Bool.or_eq_true, Bool.and_eq_true, decide_eq_true_eq, UInt32.le_iff_toNat_le,
    ge_iff_le] at letter
  rw [isVisible_iff]
  change (65 ≤ c.toNat ∧ c.toNat ≤ 90) ∨ (97 ≤ c.toNat ∧ c.toNat ≤ 122) at letter
  omega

/-- A scheme starts with the first character that is read. -/
theorem exists_start {s : List Char} {scheme left : List Char}
    (h : scheme? (significant s) = some (scheme, left)) :
    ∃ pre x rest, s = pre ++ x :: rest ∧ (∀ c ∈ pre, c.toNat ≤ 0x20) ∧ isVisible x = true := by
  obtain ⟨⟨c, first, letter⟩, _, _⟩ := scheme?_eq_some_iff.mp h
  have low : ∀ c ∈ s.takeWhile (·.toNat ≤ 0x20), c.toNat ≤ 0x20 :=
    fun c mem => by simpa using List.mem_takeWhile_imp mem
  have parts := List.takeWhile_append_dropWhile
    (p := fun c : Char => decide (c.toNat ≤ 0x20)) (l := s)
  cases left : s.dropWhile (·.toNat ≤ 0x20) with
  | nil =>
    rw [significant, trimmed, trimBoth, left] at first
    cases first
  | cons x rest =>
    have high : 0x20 < x.toNat := by
      have stop := List.head?_dropWhile_not (fun c : Char => decide (c.toNat ≤ 0x20)) s
      rw [left] at stop
      simpa using stop
    rw [left] at parts
    refine ⟨_, x, rest, parts.symm, low, ?_⟩
    rw [← parts, significant, trimmed_append_cons low high, List.filter_cons_of_pos
      (by rw [Segment.not_isIgnored high]; rfl)] at first
    cases first
    exact visible_of_isAlpha letter

/-- An address that is read can be read without the blanks around it. -/
theorem parse_trimBlanks {server : String} {v : Url} (h : parse server = .ok v)
    (special : v.kind = .special) : ∃ u, parse (trimBlanks server) = .ok u ∧ Shortened u v := by
  obtain ⟨left, scheme, read⟩ := readAuthority_of_parse h special
  obtain ⟨pre, x, rest, text, control, visible⟩ := exists_start scheme
  obtain ⟨behind, parts, tail⟩ := trimmed_blanks control visible rest
  have seen : significant server.toList = significant (trimBlanks server).toList ++
      behind.filter (!Segment.isIgnored ·) := by
    rw [significant, significant, trimBlanks, String.toList_ofList, text, parts, List.filter_append]
  rw [seen] at scheme
  rcases tail with rfl | tail
  · rw [List.filter_nil, List.append_nil] at scheme
    refine ⟨v, ?_, Shortened.refl v⟩
    rw [parse_of_scheme? scheme special, read]
  · obtain ⟨shorter, start, rfl⟩ := tail.scheme?_front scheme
    have slashes : (shorter ++ behind.filter (!Segment.isIgnored ·)).dropWhile (isSeparator true) =
        shorter.dropWhile (isSeparator true) ++ behind.filter (!Segment.isIgnored ·) := by
      obtain ⟨c, more, eq⟩ := List.exists_cons_of_ne_nil tail.present
      have plain := tail.not_separator (eq ▸ List.mem_cons_self)
      rw [List.dropWhile_append]
      split
      · next all =>
        rw [List.isEmpty_iff.mp all, eq, List.dropWhile_cons_of_neg (by simp [plain])]
        rfl
      · rfl
    rw [slashes] at read
    obtain ⟨u, shown, shortened⟩ := tail.readAuthority_front special read
    exact ⟨u, by rw [parse_of_scheme? start special, shown], shortened⟩

end Url

end RackInventory
