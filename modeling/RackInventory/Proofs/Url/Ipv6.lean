import Mathlib.Algebra.Group.Nat.Defs
import RackInventory.Url.Host

/-!
# IPv6 addresses are read back as they are written

Eight pieces of 16 bits are written in small hexadecimal digits, with the first longest run of zeros
left out if there are two or more. Reading this form gives the eight pieces again. Conversely all that
reading gives is eight such pieces, also when the last two were written as an IPv4 address.
-/

namespace RackInventory.Host

/-- The digits of a number, as values. -/
theorem toDigits_eq_map {base : Nat} (hbase : 1 < base) (n : Nat) :
    ∃ ds : List Nat, Nat.toDigits base n = ds.map Nat.digitChar ∧ (∀ d ∈ ds, d < base) ∧
      ds.foldl (fun n d => n * base + d) 0 = n := by
  induction n using Nat.strongRecOn with
  | ind n ih =>
    rw [Nat.toDigits_eq_if hbase]
    by_cases small : n < base
    · exact ⟨[n], by simp [small], by simpa using small, by simp⟩
    · obtain ⟨ds, eq, bound, value⟩ := ih (n / base) (Nat.div_lt_self (by omega) hbase)
      refine ⟨ds ++ [n % base], ?_, ?_, ?_⟩
      · simp [small, eq]
      · intro d mem
        rcases List.mem_append.mp mem with mem | mem
        · exact bound d mem
        · exact List.mem_singleton.mp mem ▸ Nat.mod_lt n (by omega)
      · rw [List.foldl_append, value]
        exact Nat.div_add_mod' n base

theorem digitValue?_digitChar : ∀ d < 16, Percent.digitValue? (Nat.digitChar d) = some d := by
  decide

theorem digitChar_ne_colon : ∀ d < 16, Nat.digitChar d ≠ ':' := by decide

theorem lt_of_digitValue? {c : Char} {d : Nat} (h : Percent.digitValue? c = some d) : d < 16 := by
  unfold Percent.digitValue? at h
  split at h
  · next range =>
    have upper : c.toNat ≤ 57 := range.2
    have := Option.some.inj h
    omega
  · split at h
    · next range =>
      have upper : c.toNat ≤ 70 := range.2
      have := Option.some.inj h
      omega
    · split at h
      · next range =>
        have upper : c.toNat ≤ 102 := range.2
        have := Option.some.inj h
        omega
      · cases h

theorem hexRun_bound (n : Nat) (s : List Char) :
    (hexRun n s).1.length ≤ n ∧ ∀ d ∈ (hexRun n s).1, d < 16 := by
  induction n generalizing s with
  | zero => simp [hexRun]
  | succ n ih =>
    cases s with
    | nil => simp [hexRun]
    | cons c s =>
      cases value : Percent.digitValue? c with
      | none => simp [hexRun, value]
      | some d =>
        obtain ⟨length, bound⟩ := ih s
        have run : hexRun (n + 1) (c :: s) = (d :: (hexRun n s).1, (hexRun n s).2) := by
          simp [hexRun, value]
        rw [run]
        refine ⟨Nat.succ_le_succ length, ?_⟩
        intro e mem
        rcases List.mem_cons.mp mem with rfl | mem
        · exact lt_of_digitValue? value
        · exact bound e mem

theorem hexRun_digits {n : Nat} {ds : List Nat} (length : ds.length ≤ n) (bound : ∀ d ∈ ds, d < 16)
    {rest : List Char} (ended : ∀ c ∈ rest.head?, Percent.digitValue? c = none) :
    hexRun n (ds.map Nat.digitChar ++ rest) = (ds, rest) := by
  induction ds generalizing n with
  | nil =>
    cases n with
    | zero => rfl
    | succ n =>
      cases rest with
      | nil => rfl
      | cons c rest => simp [hexRun, ended c rfl]
  | cons d ds ih =>
    cases n with
    | zero => simp at length
    | succ n =>
      have later := ih (Nat.le_of_succ_le_succ length) fun e mem =>
        bound e (List.mem_cons_of_mem d mem)
      rw [List.map_cons, List.cons_append, hexRun, digitValue?_digitChar d (bound d (by simp))]
      simp only [later]

theorem foldl_digits_lt {base : Nat} {ds : List Nat} (bound : ∀ d ∈ ds, d < base) (n : Nat) :
    ds.foldl (fun n d => n * base + d) n < (n + 1) * base ^ ds.length := by
  induction ds generalizing n with
  | nil => simp
  | cons d ds ih =>
    have digit := bound d List.mem_cons_self
    have later := ih (fun e mem => bound e (List.mem_cons_of_mem d mem)) (n * base + d)
    calc (d :: ds).foldl (fun n d => n * base + d) n
        < (n * base + d + 1) * base ^ ds.length := later
      _ ≤ ((n + 1) * base) * base ^ ds.length :=
        Nat.mul_le_mul_right _ (by rw [Nat.succ_mul]; omega)
      _ = (n + 1) * base ^ (d :: ds).length := by
        rw [Nat.mul_assoc, List.length_cons, Nat.pow_succ, Nat.mul_comm base]

theorem hexRun_value_lt (s : List Char) :
    (hexRun 4 s).1.foldl (fun n d => n * 16 + d) 0 < 65536 := by
  obtain ⟨length, bound⟩ := hexRun_bound 4 s
  have value := foldl_digits_lt bound 0
  have power : 16 ^ (hexRun 4 s).1.length ≤ 16 ^ 4 := Nat.pow_le_pow_right (by omega) length
  omega

theorem decimalByte?_le {s rest : List Char} {n : Nat} (h : decimalByte? s = some (n, rest)) :
    n ≤ 255 := by
  unfold decimalByte? at h
  dsimp only at h
  split at h
  · cases h
  · cases h
  · split at h
    · cases h
    · next le =>
      have := congrArg Prod.fst (Option.some.inj h)
      simp only at this
      omega

theorem embedded?_bound {s : List Char} {pieces : List Nat} (h : embedded? s = some pieces) :
    ∀ p ∈ pieces, p < 65536 := by
  simp only [embedded?, Option.bind_eq_bind, Option.bind_eq_some_iff, Prod.exists] at h
  obtain ⟨a, _, ha, _, _, b, _, hb, _, _, c, _, hc, _, _, d, _, hd, h⟩ := h
  have := decimalByte?_le ha
  have := decimalByte?_le hb
  have := decimalByte?_le hc
  have := decimalByte?_le hd
  split at h
  · have eq := Option.some.inj h
    subst eq
    intro p mem
    simp only [List.mem_cons, List.not_mem_nil, or_false] at mem
    rcases mem with rfl | rfl <;> omega
  · cases h

theorem piecesFrom_bound {before : List Nat} {gap : Option Nat} {fuel : Nat} {s : List Char}
    {pieces : List Nat} {found : Option Nat} (earlier : ∀ p ∈ before, p < 65536)
    (h : piecesFrom before gap fuel s = some (pieces, found)) : ∀ p ∈ pieces, p < 65536 := by
  induction fuel generalizing before gap s with
  | zero => cases h
  | succ fuel ih =>
    cases s with
    | nil =>
      cases h
      exact earlier
    | cons c s =>
      have grown : ∀ p ∈ before ++ [(hexRun 4 (c :: s)).1.foldl (fun n d => n * 16 + d) 0],
          p < 65536 := by
        intro p mem
        rcases List.mem_append.mp mem with mem | mem
        · exact earlier p mem
        · exact List.mem_singleton.mp mem ▸ hexRun_value_lt (c :: s)
      unfold piecesFrom at h
      split at h
      · cases h
      · split at h
        · split at h
          · cases h
          · exact ih earlier h
        · dsimp only at h
          split at h
          · split at h
            · cases h
            · simp only [Option.bind_eq_bind, Option.bind_eq_some_iff] at h
              obtain ⟨ends, hends, h⟩ := h
              cases h
              intro p mem
              rcases List.mem_append.mp mem with mem | mem
              · exact earlier p mem
              · exact embedded?_bound hends p mem
          · split at h
            · cases h
            · exact ih grown h
          · cases h
            exact grown
          · cases h

structure Address6 (pieces : List Nat) : Prop where
  length : pieces.length = 8
  bound : ∀ p ∈ pieces, p < 65536

/-- The pieces with zeros in their gap, if they are eight then. -/
def closed : List Nat × Option Nat → Option (List Nat)
  | (pieces, some gap) =>
    if pieces.length < 8 then
      some (pieces.take gap ++ List.replicate (8 - pieces.length) 0 ++ pieces.drop gap)
    else if pieces.length = 8 then some pieces else none
  | (pieces, none) => if pieces.length = 8 then some pieces else none

theorem ipv6?_of_gap_first (s : List Char) :
    ipv6? (':' :: ':' :: s) = (piecesFrom [] (some 0) (s.length + 3) s).bind closed := rfl

theorem ipv6?_of_piece_first {c : Char} (plain : c ≠ ':') (s : List Char) :
    ipv6? (c :: s) = (piecesFrom [] none (s.length + 2) (c :: s)).bind closed := by
  unfold ipv6?
  split
  · next eq => exact absurd (List.cons.inj eq).1 plain
  · next eq => exact absurd (List.cons.inj eq).1 plain
  · rfl

theorem closed_address6 {found : List Nat} {gap : Option Nat} {pieces : List Nat}
    (bound : ∀ p ∈ found, p < 65536) (h : closed (found, gap) = some pieces) :
    Address6 pieces := by
  cases gap with
  | none =>
    simp only [closed] at h
    split at h
    · next length =>
      cases h
      exact ⟨length, bound⟩
    · cases h
  | some gap =>
    simp only [closed] at h
    split at h
    · next short =>
      cases h
      refine ⟨?_, ?_⟩
      · simp only [List.length_append, List.length_take, List.length_replicate, List.length_drop]
        omega
      · intro p mem
        simp only [List.mem_append] at mem
        rcases mem with (mem | mem) | mem
        · exact bound p (List.mem_of_mem_take mem)
        · have := (List.mem_replicate.mp mem).2
          omega
        · exact bound p (List.mem_of_mem_drop mem)
    · split at h
      · next length =>
        cases h
        exact ⟨length, bound⟩
      · cases h

theorem address6_of_ipv6? {s : List Char} {pieces : List Nat} (h : ipv6? s = some pieces) :
    Address6 pieces := by
  have none : ∀ p ∈ ([] : List Nat), p < 65536 := fun p mem => absurd mem List.not_mem_nil
  have judged : ∀ {gap fuel s}, (piecesFrom [] gap fuel s).bind closed = some pieces →
      Address6 pieces := by
    intro gap fuel s h
    obtain ⟨⟨found, gap⟩, start, h⟩ := Option.bind_eq_some_iff.mp h
    exact closed_address6 (piecesFrom_bound none start) h
  cases s with
  | nil => simp [ipv6?, piecesFrom] at h
  | cons c s =>
    by_cases colon : c = ':'
    · subst colon
      cases s with
      | nil => cases h
      | cons d s =>
        by_cases gap : d = ':'
        · subst gap
          exact judged h
        · unfold ipv6? at h
          split at h
          · next eq => exact absurd (List.cons.inj (List.cons.inj eq).2).1 gap
          · cases h
          · next other => exact absurd rfl (other (d :: s))
    · rw [ipv6?_of_piece_first colon] at h
      exact judged h

theorem joinColons_singleton (p : Nat) : joinColons [p] = Nat.toDigits 16 p := by
  simp [joinColons]

theorem joinColons_cons (p q : Nat) (rest : List Nat) :
    joinColons (p :: q :: rest) = Nat.toDigits 16 p ++ ':' :: joinColons (q :: rest) := by
  simp [joinColons]

theorem hexRun_toDigits {p : Nat} (bound : p < 65536) (rest : List Char)
    (ended : ∀ c ∈ rest.head?, Percent.digitValue? c = none) :
    ∃ ds, hexRun 4 (Nat.toDigits 16 p ++ rest) = (ds, rest) ∧
      ds.foldl (fun n d => n * 16 + d) 0 = p := by
  obtain ⟨ds, eq, digits, value⟩ := toDigits_eq_map (by omega : 1 < 16) p
  have length : (Nat.toDigits 16 p).length ≤ 4 :=
    (Nat.length_toDigits_le_iff (by omega) (by omega)).mpr bound
  rw [eq, List.length_map] at length
  exact ⟨ds, by rw [eq, hexRun_digits length digits ended], value⟩

theorem toDigits_cons (p : Nat) : ∃ c s, Nat.toDigits 16 p = c :: s ∧ c ≠ ':' := by
  obtain ⟨ds, eq, digits, _⟩ := toDigits_eq_map (by omega : 1 < 16) p
  cases ds with
  | nil => exact absurd eq Nat.toDigits_ne_nil
  | cons d ds =>
    exact ⟨_, _, eq, digitChar_ne_colon d (digits d List.mem_cons_self)⟩

theorem piecesFrom_last {before : List Nat} {gap : Option Nat} (space : before.length < 8) {p : Nat}
    (bound : p < 65536) (fuel : Nat) :
    piecesFrom before gap (fuel + 1) (Nat.toDigits 16 p) = some (before ++ [p], gap) := by
  obtain ⟨ds, run, value⟩ := hexRun_toDigits bound [] (by simp)
  obtain ⟨c, s, eq, plain⟩ := toDigits_cons p
  rw [List.append_nil, eq] at run
  rw [eq, piecesFrom, if_neg (by omega), if_neg plain, run]
  simp [value]

theorem piecesFrom_next {before : List Nat} {gap : Option Nat} (space : before.length < 8) {p : Nat}
    (bound : p < 65536) (fuel : Nat) {after : List Char} (more : after ≠ []) :
    piecesFrom before gap (fuel + 1) (Nat.toDigits 16 p ++ ':' :: after) =
      piecesFrom (before ++ [p]) gap fuel after := by
  obtain ⟨ds, run, value⟩ := hexRun_toDigits bound (':' :: after) (by
    intro c hc
    cases hc
    rfl)
  obtain ⟨c, s, eq, plain⟩ := toDigits_cons p
  rw [eq, List.cons_append] at run
  rw [eq, List.cons_append, piecesFrom, if_neg (by omega), if_neg plain, run]
  simp [value, more]

/-- Pieces up to the end of the text. -/
theorem piecesFrom_join {before : List Nat} {gap : Option Nat} {pieces : List Nat}
    (space : before.length + pieces.length ≤ 8) (bound : ∀ p ∈ pieces, p < 65536) {fuel : Nat}
    (enough : pieces.length < fuel) :
    piecesFrom before gap fuel (joinColons pieces) = some (before ++ pieces, gap) := by
  induction pieces generalizing before fuel with
  | nil =>
    obtain ⟨fuel, rfl⟩ := Nat.exists_eq_succ_of_ne_zero (Nat.ne_of_gt enough)
    rw [List.append_nil]
    rfl
  | cons p rest ih =>
    obtain ⟨fuel, rfl⟩ := Nat.exists_eq_succ_of_ne_zero (Nat.ne_of_gt (Nat.zero_lt_of_lt enough))
    rw [List.length_cons] at space enough
    cases rest with
    | nil =>
      rw [joinColons_singleton]
      exact piecesFrom_last (by omega) (bound p List.mem_cons_self) fuel
    | cons q rest =>
      have more : joinColons (q :: rest) ≠ [] := by
        cases rest with
        | nil => simp [joinColons_singleton]
        | cons r rest => simp [joinColons_cons]
      rw [joinColons_cons, piecesFrom_next (by omega) (bound p List.mem_cons_self) fuel more, ih]
      · simp
      · rw [List.length_append, List.length_singleton]
        omega
      · exact fun r mem => bound r (List.mem_cons_of_mem p mem)
      · omega

/-- Pieces up to a gap, which two colons stand for. -/
theorem piecesFrom_join_gap {before : List Nat} {gap : Option Nat} {pieces : List Nat}
    (some : pieces ≠ []) (space : before.length + pieces.length ≤ 8)
    (bound : ∀ p ∈ pieces, p < 65536) (fuel : Nat) (after : List Char) :
    piecesFrom before gap (pieces.length + fuel) (joinColons pieces ++ ':' :: ':' :: after) =
      piecesFrom (before ++ pieces) gap fuel (':' :: after) := by
  induction pieces generalizing before with
  | nil => exact absurd rfl some
  | cons p rest ih =>
    rw [List.length_cons] at space ⊢
    have start := bound p List.mem_cons_self
    rw [Nat.add_right_comm]
    cases rest with
    | nil =>
      rw [joinColons_singleton, piecesFrom_next (by omega) start _ (by simp), List.length_nil,
        Nat.zero_add]
    | cons q rest =>
      rw [joinColons_cons, List.append_assoc, List.cons_append,
        piecesFrom_next (by omega) start _ (by simp), ih]
      · simp
      · simp
      · rw [List.length_append, List.length_singleton]
        omega
      · exact fun r mem => bound r (List.mem_cons_of_mem p mem)

theorem take_zeroRun (pieces : List Nat) :
    pieces.take (zeroRun pieces) = List.replicate (zeroRun pieces) 0 := by
  have eq : pieces.take (zeroRun pieces) = pieces.takeWhile (· = 0) :=
    (List.prefix_iff_eq_take.mp (List.takeWhile_prefix _)).symm
  rw [eq, List.eq_replicate_iff]
  refine ⟨rfl, ?_⟩
  intro p mem
  simpa using List.all_eq_true.mp List.all_takeWhile p mem

theorem zeroRun_le (pieces : List Nat) : zeroRun pieces ≤ pieces.length :=
  (List.takeWhile_sublist _).length_le

theorem longestZeros_run (pieces : List Nat) :
    (longestZeros pieces).2 = 0 ∨
      (longestZeros pieces).2 = zeroRun (pieces.drop (longestZeros pieces).1) := by
  unfold longestZeros
  generalize List.range pieces.length = places
  have step : ∀ (places : List Nat) (best : Nat × Nat),
      (best.2 = 0 ∨ best.2 = zeroRun (pieces.drop best.1)) →
      let found := places.foldl
        (fun best i =>
          if best.2 < zeroRun (pieces.drop i) then (i, zeroRun (pieces.drop i)) else best)
        best
      found.2 = 0 ∨ found.2 = zeroRun (pieces.drop found.1) := by
    intro places
    induction places with
    | nil => exact fun _ h => h
    | cons i places ih =>
      intro best h
      apply ih
      dsimp only
      split
      · exact Or.inr rfl
      · exact h
  exact step places (0, 0) (Or.inl rfl)

/-- What the text leaves out is zeros. -/
theorem eq_of_longestZeros {pieces : List Nat} {start length : Nat}
    (longest : longestZeros pieces = (start, length)) (two : 2 ≤ length) :
    start + length ≤ pieces.length ∧
      pieces = pieces.take start ++ List.replicate length 0 ++ pieces.drop (start + length) := by
  have run := longestZeros_run pieces
  rw [longest] at run
  simp only at run
  have run : length = zeroRun (pieces.drop start) := by omega
  have bound := zeroRun_le (pieces.drop start)
  rw [List.length_drop] at bound
  refine ⟨by omega, ?_⟩
  have zeros := take_zeroRun (pieces.drop start)
  rw [← run] at zeros
  rw [← zeros, List.append_assoc, ← List.drop_drop, List.take_append_drop, List.take_append_drop]

theorem length_le_joinColons (pieces : List Nat) : pieces.length ≤ (joinColons pieces).length := by
  induction pieces with
  | nil => exact Nat.zero_le _
  | cons p rest ih =>
    have digits := Nat.length_toDigits_pos (b := 16) (n := p)
    cases rest with
    | nil =>
      rw [joinColons_singleton]
      exact digits
    | cons q rest =>
      rw [joinColons_cons, List.length_append, List.length_cons (a := p),
        List.length_cons (a := ':')]
      omega

theorem joinColons_start {pieces : List Nat} (some : pieces ≠ []) :
    ∃ c s, joinColons pieces = c :: s ∧ c ≠ ':' := by
  obtain ⟨p, rest, rfl⟩ := List.exists_cons_of_ne_nil some
  obtain ⟨c, s, eq, plain⟩ := toDigits_cons p
  cases rest with
  | nil => exact ⟨c, s, by rw [joinColons_singleton, eq], plain⟩
  | cons q rest => exact ⟨c, _, by rw [joinColons_cons, eq, List.cons_append], plain⟩

theorem ipv6?_joinColons {pieces : List Nat} (h : Address6 pieces) :
    ipv6? (joinColons pieces) = some pieces := by
  have present : pieces ≠ [] := by
    rintro rfl
    cases h.length
  obtain ⟨c, s, eq, plain⟩ := joinColons_start present
  have length := length_le_joinColons pieces
  rw [eq, List.length_cons] at length
  have read : piecesFrom [] none (s.length + 2) (joinColons pieces) = some (pieces, none) :=
    piecesFrom_join (by simp [h.length]) h.bound (by omega)
  rw [eq, ipv6?_of_piece_first plain, ← eq, read]
  exact if_pos h.length

theorem closed_of_gap {front back : List Nat} (short : front.length + back.length < 8) :
    closed (front ++ back, some front.length) =
      some (front ++ List.replicate (8 - (front.length + back.length)) 0 ++ back) := by
  simp [closed, short]

theorem ipv6?_gap {front back : List Nat} (short : front.length + back.length < 8)
    (boundFront : ∀ p ∈ front, p < 65536) (boundBack : ∀ p ∈ back, p < 65536) :
    ipv6? (joinColons front ++ [':', ':'] ++ joinColons back) =
      some (front ++ List.replicate (8 - (front.length + back.length)) 0 ++ back) := by
  have lengthBack := length_le_joinColons back
  by_cases first : front = []
  · subst first
    have read : piecesFrom [] (some 0) ((joinColons back).length + 3) (joinColons back) =
        some (back, some 0) :=
      piecesFrom_join (by simpa using Nat.le_of_lt short) boundBack (by omega)
    change ipv6? (':' :: ':' :: joinColons back) = _
    rw [ipv6?_of_gap_first, read]
    exact closed_of_gap short
  · obtain ⟨c, s, eq, plain⟩ := joinColons_start first
    have lengthFront := length_le_joinColons front
    rw [eq, List.length_cons] at lengthFront
    have text : joinColons front ++ [':', ':'] ++ joinColons back =
        c :: (s ++ ':' :: ':' :: joinColons back) := by
      simp [eq]
    obtain ⟨fuel, enough, total⟩ : ∃ fuel, back.length < fuel ∧
        (s ++ ':' :: ':' :: joinColons back).length + 2 = front.length + (fuel + 1) := by
      refine ⟨(s ++ ':' :: ':' :: joinColons back).length + 1 - front.length, ?_, ?_⟩ <;>
        simp only [List.length_append, List.length_cons] <;> omega
    have gap : piecesFrom front none (fuel + 1) (':' :: joinColons back) =
        piecesFrom front (some front.length) fuel (joinColons back) := by
      rw [piecesFrom, if_neg (by omega), if_pos rfl]
      rfl
    rw [text, ipv6?_of_piece_first plain, total, ← List.cons_append, ← eq,
      piecesFrom_join_gap first (by simp; omega) boundFront, List.nil_append, gap,
      piecesFrom_join (by omega) boundBack enough]
    exact closed_of_gap short

/-- An address is read back from its text. -/
theorem ipv6?_text {pieces : List Nat} (h : Address6 pieces) :
    ipv6? (ipv6Text pieces) = some pieces := by
  unfold ipv6Text
  obtain ⟨⟨start, length⟩, longest⟩ : ∃ longest, longestZeros pieces = longest := ⟨_, rfl⟩
  rw [longest]
  dsimp only
  by_cases two : length < 2
  · rw [if_pos two, ipv6?_joinColons h]
  · obtain ⟨inside, eq⟩ := eq_of_longestZeros longest (Nat.le_of_not_lt two)
    have total := h.length
    have front : (pieces.take start).length = start := by
      rw [List.length_take]
      omega
    have back : (pieces.drop (start + length)).length = 8 - (start + length) := by
      rw [List.length_drop, total]
    rw [if_neg two, ipv6?_gap (by omega) (fun p mem => h.bound p (List.mem_of_mem_take mem))
      (fun p mem => h.bound p (List.mem_of_mem_drop mem))]
    have zeros : 8 - ((pieces.take start).length + (pieces.drop (start + length)).length) =
        length := by
      omega
    rw [zeros, ← eq]

end RackInventory.Host
