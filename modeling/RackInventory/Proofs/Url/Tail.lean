import RackInventory.Proofs.Url.Reading

/-!
# Addresses with a tail

A tail is what may stand behind an address without being meant: blanks and control characters, not
all of them ASCII. No authority ends with a tail, so when an address is read with one, the tail is
part of its path, query or fragment. In a path it is encoded to escapes in the last segment.
-/

namespace RackInventory

namespace Url

/-- Characters behind an address: blanks and control characters, one of them above ASCII. -/
structure Tail (rest : List Char) : Prop where
  apart : ∀ c ∈ rest, c.toNat ≤ 0x20 ∨ 0x80 ≤ c.toNat
  above : ∃ c ∈ rest, 0x80 ≤ c.toNat

theorem Tail.present {rest : List Char} (tail : Tail rest) : rest ≠ [] := by
  obtain ⟨c, mem, _⟩ := tail.above
  exact List.ne_nil_of_mem mem

/-- No visible character is found behind an address. -/
theorem Tail.ne {rest : List Char} (tail : Tail rest) {c d : Char} (mem : c ∈ rest)
    (visible : isVisible d = true) : c ≠ d := by
  rintro rfl
  have range := isVisible_iff.mp visible
  have apart := tail.apart c mem
  omega

theorem Tail.not_separator {rest : List Char} (tail : Tail rest) {c : Char} (mem : c ∈ rest) :
    isSeparator true c = false := by
  have slash := tail.ne mem (d := '/') (by decide)
  have backslash := tail.ne mem (d := '\\') (by decide)
  simp [isSeparator, slash, backslash]

theorem Tail.not_endsPath {rest : List Char} (tail : Tail rest) {c : Char} (mem : c ∈ rest) :
    endsPath c = false := by
  have question := tail.ne mem (d := '?') (by decide)
  have hash := tail.ne mem (d := '#') (by decide)
  simp [endsPath, question, hash]

theorem Tail.not_parse_host {rest : List Char} (tail : Tail rest) (s host : List Char) :
    Host.parse (s ++ rest) ≠ .ok host := by
  intro h
  by_cases start : (s ++ rest).head? = some '['
  · have first : ∃ inside, s ++ rest = '[' :: (inside ++ rest) := by
      cases s with
      | nil => exact absurd rfl (tail.ne (List.mem_of_head? start) (by decide))
      | cons c inside =>
        cases start
        exact ⟨inside, rfl⟩
    obtain ⟨inside, eq⟩ := first
    rw [eq] at h
    change Host.bracketed (inside ++ rest) = .ok host at h
    unfold Host.bracketed at h
    split at h
    · next closed =>
      rw [List.getLast?_append_of_ne_nil _ tail.present] at closed
      exact tail.ne (List.mem_of_getLast? closed) (by decide) rfl
    · cases h
  · rw [Host.parse_of_unbracketed start] at h
    obtain ⟨c, mem, above⟩ := tail.above
    obtain ⟨b, hb, high⟩ := Percent.decode_above (List.mem_append_right s mem) above
    split at h
    · next ascii =>
      have low : b < 0x80 := by simpa using List.all_eq_true.mp ascii b hb
      have bound := UInt8.lt_iff_toNat_lt.mp low
      change b.toNat < 0x80 at bound
      omega
    · cases h

theorem Tail.spanHost_append {rest : List Char} (tail : Tail rest) (inBrackets : Bool)
    (s : List Char) :
    spanHost inBrackets (s ++ rest) = (s ++ rest, []) ∨
      ∃ front back, spanHost inBrackets (s ++ rest) = (front, ':' :: (back ++ rest)) ∧
        s = front ++ ':' :: back := by
  induction s generalizing inBrackets with
  | nil =>
    left
    have plain : ∀ l : List Char, (∀ c ∈ l, c ∈ rest) → spanHost inBrackets l = (l, []) := by
      intro l part
      induction l with
      | nil => rfl
      | cons c l ih =>
        have mem := part c List.mem_cons_self
        rw [spanHost, if_neg (fun h => tail.ne mem (by decide) h.1),
          if_neg (tail.ne mem (by decide)), if_neg (tail.ne mem (by decide)),
          ih fun d hd => part d (List.mem_cons_of_mem c hd)]
    exact plain rest fun _ mem => mem
  | cons c s ih =>
    rw [List.cons_append, spanHost]
    split
    · next colon =>
      obtain ⟨rfl, _⟩ := colon
      exact Or.inr ⟨[], s, rfl, rfl⟩
    · rcases ih (if c = '[' then true else if c = ']' then false else inBrackets) with
        eq | ⟨front, back, eq, rfl⟩
      · rw [eq]
        exact Or.inl rfl
      · rw [eq]
        exact Or.inr ⟨c :: front, back, rfl, rfl⟩

theorem Tail.readPort_append {rest : List Char} (tail : Tail rest) {s : List Char}
    (whole : ∀ c ∈ s, c ≠ '\\') (scheme : List Char) :
    readPort scheme (s ++ rest) = .error .port := by
  have started : ∃ c more, (s ++ rest).dropWhile Char.isDigit = c :: more ∧ c ≠ '\\' := by
    obtain ⟨d, hd, above⟩ := tail.above
    have left : (s ++ rest).dropWhile Char.isDigit ≠ [] := by
      intro nil
      have digit := List.dropWhile_eq_nil_iff.mp nil d (List.mem_append_right s hd)
      simp only [Char.isDigit, Bool.and_eq_true, decide_eq_true_eq] at digit
      have bound : d.toNat ≤ 57 := digit.2
      omega
    obtain ⟨c, more, eq⟩ := List.exists_cons_of_ne_nil left
    have mem : c ∈ s ++ rest :=
      (List.dropWhile_suffix Char.isDigit).mem (eq ▸ List.mem_cons_self)
    refine ⟨c, more, eq, ?_⟩
    rcases List.mem_append.mp mem with mem | mem
    · exact whole c mem
    · exact tail.ne mem (by decide)
  obtain ⟨c, more, eq, plain⟩ := started
  have ended : (c == '\\') = false := by simpa using plain
  simp only [readPort, eq, ended]
  rw [if_pos (Or.inr trivial)]

/-- No authority ends like this. -/
theorem Tail.not_readHostPort {rest : List Char} (tail : Tail rest) {scheme : List Char}
    (special : (SchemeKind.ofScheme scheme).isSpecial = true) {s : List Char}
    (whole : ∀ c ∈ s, c ≠ '\\') (user : List Char) (found : Authority × List Char) :
    readHostPort scheme user (s ++ rest) ≠ .ok found := by
  intro h
  rcases tail.spanHost_append false s with span | ⟨front, back, span, rfl⟩
  · rw [readHostPort_eq special user span] at h
    split at h
    · cases h
    · split at h
      · cases h
      · next host parsed => exact tail.not_parse_host s host parsed
  · have port : readPort scheme (back ++ rest) = .error .port := by
      apply tail.readPort_append
      intro c mem
      exact whole c (List.mem_append_right _ (List.mem_cons_of_mem _ mem))
    rw [readHostPort_eq special user span] at h
    split at h
    · cases h
    · split at h
      · cases h
      · rw [withPort, port] at h
        split at h <;> cases h

theorem Tail.cutAtLastMark_append {rest : List Char} (tail : Tail rest) (s : List Char) :
    ∃ user host, cutAtLastMark (s ++ rest) = (user, host ++ rest) ∧ ∀ c ∈ host, c ∈ s := by
  have unmarked : ∀ c ∈ rest.reverse, decide (c ≠ '@') = true :=
    fun c mem => decide_eq_true (tail.ne (List.mem_reverse.mp mem) (by decide))
  have host : ((s ++ rest).reverse.takeWhile (· ≠ '@')).reverse =
      (s.reverse.takeWhile (· ≠ '@')).reverse ++ rest := by
    rw [List.reverse_append, List.takeWhile_append_of_pos unmarked, List.reverse_append,
      List.reverse_reverse]
  have part : ∀ c ∈ (s.reverse.takeWhile (· ≠ '@')).reverse, c ∈ s := by
    intro c mem
    exact List.mem_reverse.mp ((List.takeWhile_prefix _).mem (List.mem_reverse.mp mem))
  unfold cutAtLastMark
  dsimp only
  rw [host]
  split
  · exact ⟨none, s, rfl, fun _ mem => mem⟩
  · exact ⟨_, _, rfl, part⟩

end Url

namespace Segment

theorem marks_takeBack_le (done : List Segment) : marks (takeBack done) ≤ marks done := by
  rcases List.eq_nil_or_concat done with rfl | ⟨front, last, rfl⟩
  · exact le_rfl
  · rw [takeBack, List.concat_eq_append, List.getLast?_concat]
    dsimp only
    split
    · exact le_rfl
    · rw [List.dropLast_concat, marks_append]
      omega

theorem marks_add_le (done : List Segment) (s : Segment) :
    marks (add false done s true) ≤ marks done + s.count '%' := by
  have empty : marks [[]] = 0 := rfl
  have back := marks_takeBack_le done
  unfold add
  split
  · rw [if_pos rfl, marks_append]
    omega
  · split
    · rw [if_pos rfl, marks_append]
      omega
    · change marks (done ++ [s]) ≤ _
      rw [marks_append, marks_singleton]

/-- All segments but the last are read in the same way, whatever the last is. -/
theorem exists_addAll_concat (done xs : List Segment) :
    ∃ before, ∀ s, addAll false done (xs ++ [s]) = add false before s true := by
  induction xs generalizing done with
  | nil => exact ⟨done, fun _ => rfl⟩
  | cons x xs ih =>
    obtain ⟨before, eq⟩ := ih (add false done x false)
    refine ⟨before, fun s => ?_⟩
    rw [← eq s, List.cons_append]
    cases xs <;> rfl

end Segment

namespace Url

theorem splitSegments_behind {special : Bool} {rest : List Char}
    (whole : ∀ c ∈ rest, isSeparator special c = false) (s : List Char) :
    ∃ front last, splitSegments special s = front ++ [last] ∧
      splitSegments special (s ++ rest) = front ++ [last ++ rest] := by
  induction s with
  | nil =>
    refine ⟨[], [], rfl, ?_⟩
    have alone := splitSegments_append whole (s := []) rfl
    simpa using alone
  | cons c s ih =>
    obtain ⟨front, last, eq, longer⟩ := ih
    rw [List.cons_append, splitSegments, splitSegments, eq, longer]
    split
    · exact ⟨[] :: front, last, rfl, rfl⟩
    · cases front with
      | nil => exact ⟨[], c :: last, rfl, rfl⟩
      | cons first front => exact ⟨(c :: first) :: front, last, rfl, rfl⟩

/-- What stands behind a path is encoded to escapes in its last segment. -/
theorem Tail.marks_readSegments {rest : List Char} (tail : Tail rest) (s : List Char) :
    Segment.marks (readSegments .special s) <
      Segment.marks (readSegments .special (s ++ rest)) := by
  obtain ⟨front, last, eq, longer⟩ := splitSegments_behind (fun _ => tail.not_separator) s
  obtain ⟨before, added⟩ := Segment.exists_addAll_concat []
    (front.map (Percent.encode Percent.pathSet))
  obtain ⟨c, mem, above⟩ := tail.above
  obtain ⟨mark, d, digit, hd⟩ : '%' ∈ Percent.encode Percent.pathSet rest ∧ _ :=
    Percent.encode_above mem above
  have other : Host.lowerAscii d ∉ ['.', '%', '2', 'e'] := by
    simp only [List.mem_cons, List.not_mem_nil, or_false] at digit
    rcases digit with rfl | rfl | rfl | rfl <;> decide
  obtain ⟨named, staying⟩ := Segment.not_dots_of_mem
    (List.mem_append_right (Percent.encode Percent.pathSet last) hd) other
  have short : readSegments .special s =
      Segment.add false before (Percent.encode Percent.pathSet last) true := by
    change Segment.addAll false [] ((splitSegments true s).map _) = _
    rw [eq, List.map_append, List.map_singleton, added]
  have long : readSegments .special (s ++ rest) =
      before ++ [Percent.encode Percent.pathSet last ++ Percent.encode Percent.pathSet rest] := by
    change Segment.addAll false [] ((splitSegments true (s ++ rest)).map _) = _
    rw [longer, List.map_append, List.map_singleton, added, Percent.encode_append, Segment.add,
      staying, named]
    rfl
  have more := List.count_pos_iff.mpr mark
  have bound := Segment.marks_add_le before (Percent.encode Percent.pathSet last)
  rw [short, long, Segment.marks_append, Segment.marks_singleton, List.count_append]
  omega

theorem Tail.marks_readPath {rest : List Char} (tail : Tail rest) {s : List Char} (some : s ≠ []) :
    ∃ short long, readPath .special s = .segments short ∧
      readPath .special (s ++ rest) = .segments long ∧
      Segment.marks short < Segment.marks long := by
  obtain ⟨c, s, rfl⟩ := List.exists_cons_of_ne_nil some
  refine ⟨_, _, rfl, rfl, ?_⟩
  change Segment.marks (readSegments .special (if isSeparator true c then s else c :: s)) <
    Segment.marks (readSegments .special (if isSeparator true c then s ++ rest else c :: s ++ rest))
  split <;> exact tail.marks_readSegments _

/-- An address that stands in front of another one's tail. -/
structure Shortened (u v : Url) : Prop where
  scheme : u.scheme = v.scheme
  path : u.path = v.path ∨ ∃ short long, u.path = .segments short ∧ v.path = .segments long ∧
    Segment.marks short < Segment.marks long

theorem Shortened.refl (u : Url) : Shortened u u := ⟨rfl, Or.inl rfl⟩

theorem Tail.shortened_completed {rest : List Char} (tail : Tail rest) {scheme : List Char}
    (special : SchemeKind.ofScheme scheme = .special) (a : Authority) {s : List Char}
    (some : s ≠ []) : Shortened (completed scheme a s) (completed scheme a (s ++ rest)) := by
  refine ⟨rfl, ?_⟩
  have behind : ∀ c ∈ rest, (!endsPath c) = true := fun c mem => by simp [tail.not_endsPath mem]
  change readPath (.ofScheme scheme) _ = readPath (.ofScheme scheme) _ ∨ ∃ short long,
    readPath (.ofScheme scheme) _ = _ ∧ readPath (.ofScheme scheme) _ = _ ∧ _
  rw [special, List.takeWhile_append]
  split
  · next whole =>
    right
    have all : s.takeWhile (!endsPath ·) = s :=
      (List.takeWhile_prefix _).eq_of_length whole
    rw [all, List.takeWhile_eq_self_iff.mpr behind]
    exact tail.marks_readPath some
  · exact Or.inl rfl

theorem exists_authority (scheme s : List Char) :
    ∃ front back, s = front ++ back ∧ (∀ c ∈ front, endsAuthority scheme c = false) ∧
      ∀ c ∈ back.head?, endsAuthority scheme c = true := by
  refine ⟨_, _, (List.takeWhile_append_dropWhile (p := (!endsAuthority scheme ·))).symm, ?_, ?_⟩
  · intro c mem
    simpa using List.mem_takeWhile_imp mem
  · intro c first
    have ends := List.head?_dropWhile_not (!endsAuthority scheme ·) s
    rw [first] at ends
    simpa using ends

/-- What is read with a tail is read without it. -/
theorem Tail.readAuthority_front {rest : List Char} (tail : Tail rest) {scheme : List Char}
    (special : SchemeKind.ofScheme scheme = .special) {s : List Char} {v : Url}
    (h : readAuthority scheme (s ++ rest) = .ok v) :
    ∃ u, readAuthority scheme s = .ok u ∧ Shortened u v := by
  obtain ⟨front, back, rfl, inside, stop⟩ := exists_authority scheme s
  cases back with
  | nil =>
    have all : ∀ c ∈ front ++ rest, endsAuthority scheme c = false := by
      intro c mem
      rcases List.mem_append.mp mem with mem | mem
      · exact inside c mem
      · rw [endsAuthority_special special, tail.not_separator mem, tail.not_endsPath mem]
        rfl
    have whole : ∀ c ∈ front, c ≠ '\\' := by
      rintro c mem rfl
      have ends := inside _ mem
      rw [endsAuthority_special special] at ends
      exact absurd ends (by decide)
    have read : readAuthority scheme (front ++ rest ++ []) = readParts scheme (front ++ rest) [] :=
      readAuthority_append all (by simp)
    rw [List.append_nil] at read h
    obtain ⟨user, host, cut, part⟩ := tail.cutAtLastMark_append front
    rw [read, readParts, cut] at h
    dsimp only at h
    split at h
    · cases h
    · generalize found : readHostPort _ _ _ = result at h
      cases result with
      | error cause => cases h
      | ok pair =>
        exact absurd found (tail.not_readHostPort (by rw [special]; rfl)
          (fun c mem => whole c (part c mem)) _ pair)
  | cons c back =>
    have short := readAuthority_append inside stop
    have long : readAuthority scheme (front ++ (c :: back ++ rest)) =
        readParts scheme front (c :: back ++ rest) := readAuthority_append inside stop
    rw [List.append_assoc, long] at h
    rw [short]
    unfold readParts at h ⊢
    dsimp only at h ⊢
    split at h
    · cases h
    · next fine =>
      rw [if_neg (fun wrong => fine ⟨wrong.1, wrong.2.1, List.cons_ne_nil _ _⟩)]
      generalize found : readHostPort _ _ _ = result at h ⊢
      cases result with
      | error cause => cases h
      | ok pair =>
        cases h
        refine ⟨_, rfl, ?_⟩
        have shortened :=
          tail.shortened_completed special pair.1 (s := pair.2 ++ c :: back) (by simp)
        rwa [List.append_assoc] at shortened

def inScheme (c : Char) : Bool := c.isAlphanum || c == '+' || c == '-' || c == '.'

theorem scheme?_eq_some_iff {s scheme left : List Char} :
    scheme? s = some (scheme, left) ↔
      (∃ c, s.head? = some c ∧ c.isAlpha = true) ∧ s.dropWhile inScheme = ':' :: left ∧
        scheme = (s.takeWhile inScheme).map Host.lowerAscii := by
  have named : (fun c : Char => c.isAlphanum || c == '+' || c == '-' || c == '.') = inScheme := rfl
  simp only [scheme?, named]
  split
  · next c rest first colon =>
    rw [first, colon]
    constructor
    · intro h
      split at h
      · next letter =>
        cases h
        exact ⟨⟨c, rfl, letter⟩, rfl, rfl⟩
      · cases h
    · rintro ⟨⟨d, same, letter⟩, eq, rfl⟩
      cases same
      cases eq
      rw [if_pos letter]
  · next other =>
    constructor
    · intro h
      cases h
    · rintro ⟨⟨c, first, _⟩, colon, _⟩
      exact absurd colon (other c left first)

theorem Tail.scheme?_front {rest : List Char} (tail : Tail rest) {s scheme left : List Char}
    (h : scheme? (s ++ rest) = some (scheme, left)) :
    ∃ shorter, scheme? s = some (scheme, shorter) ∧ left = shorter ++ rest := by
  obtain ⟨⟨c, first, letter⟩, colon, rfl⟩ := scheme?_eq_some_iff.mp h
  have started : s.dropWhile inScheme ≠ [] := by
    intro nil
    rw [List.dropWhile_append, nil, List.isEmpty_nil, if_pos rfl] at colon
    have mem : ':' ∈ rest := (List.dropWhile_suffix inScheme).mem (colon ▸ List.mem_cons_self)
    exact tail.ne mem (d := ':') (by decide) rfl
  obtain ⟨d, shorter, eq⟩ := List.exists_cons_of_ne_nil started
  have front : s.takeWhile inScheme ≠ s := by
    intro all
    exact started (List.dropWhile_eq_nil_iff.mpr (List.takeWhile_eq_self_iff.mp all))
  have length : (s.takeWhile inScheme).length ≠ s.length :=
    fun same => front ((List.takeWhile_prefix _).eq_of_length same)
  rw [List.dropWhile_append, eq, List.isEmpty_cons, if_neg (by simp), List.cons_append] at colon
  obtain ⟨rfl, rfl⟩ := List.cons.inj colon
  refine ⟨shorter, scheme?_eq_some_iff.mpr ⟨⟨c, ?_, letter⟩, eq, ?_⟩, rfl⟩
  · cases s with
    | nil => exact absurd rfl front
    | cons e s => exact first
  · rw [List.takeWhile_append, if_neg length]

end Url

end RackInventory
