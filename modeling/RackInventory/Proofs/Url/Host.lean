import RackInventory.Proofs.Url.Encoding
import RackInventory.Proofs.Url.Ipv6
import RackInventory.Url.Parser

/-!
# Hosts are read back as they are written

Whatever was given as a host, its written form stands for itself: a name in small letters without
escapes, four decimal bytes, or an IPv6 address in brackets. The written form can also be found
again in an authority, as it holds none of the marks around it.
-/

namespace RackInventory

/-- Whether a character is visible and does not end an authority. -/
def Url.inAuthority (c : Char) : Bool := isVisible c && !(['/', '\\', '?', '#'].contains c)

namespace Host

/-- What becomes of a host that is no address in brackets, once its escapes are decoded. -/
def judged (name : List Char) : Except Error (List Char) :=
  if name.any forbiddenInName ∨ !Domain.isValid (splitDots name) then .error .name
  else if name.isEmpty then .error .empty
  else if endsInNumber name then
    match ipv4? name with
    | some address => .ok (ipv4Text address)
    | none => .error .ipv4
  else .ok name

theorem parse_of_unbracketed {s : List Char} (unbracketed : s.head? ≠ some '[') :
    parse s =
      if (Percent.decode s).all (· < 0x80) then
        judged (((Percent.decode s).map fun b => Char.ofNat b.toNat).map lowerAscii)
      else .error .name := by
  unfold parse
  split
  · exact absurd rfl unbracketed
  · rfl

structure Plain (name : List Char) : Prop where
  ascii : ∀ c ∈ name, c.toNat < 0x80
  small : ∀ c ∈ name, lowerAscii c = c
  unescaped : '%' ∉ name
  unbracketed : '[' ∉ name

theorem parse_of_plain {name : List Char} (h : Plain name) : parse name = judged name := by
  have start : name.head? ≠ some '[' := fun eq => h.unbracketed (List.mem_of_head? eq)
  have bytes : Percent.decode name = name.map fun c => UInt8.ofNat c.toNat := by
    apply Percent.decode_of_unescaped
    intro c mem
    exact ⟨h.ascii c mem, fun eq => h.unescaped (eq ▸ mem)⟩
  have all : (name.map fun c => UInt8.ofNat c.toNat).all (· < 0x80) = true := by
    rw [List.all_map, List.all_eq_true]
    intro c mem
    have ascii := h.ascii c mem
    simp only [Function.comp_apply, decide_eq_true_eq, UInt8.lt_iff_toNat_lt, UInt8.toNat_ofNat']
    change c.toNat % 256 < 128
    omega
  have back : ((name.map fun c => UInt8.ofNat c.toNat).map fun b => Char.ofNat b.toNat).map
      lowerAscii = name := by
    rw [List.map_map, List.map_map]
    have each : ∀ c ∈ name,
        ((lowerAscii ∘ fun b : UInt8 => Char.ofNat b.toNat) ∘ fun c => UInt8.ofNat c.toNat) c =
          id c := by
      intro c mem
      rw [Function.comp_apply, Function.comp_apply, Percent.ofNat_toNat_ascii (h.ascii c mem)]
      exact h.small c mem
    rw [List.map_congr_left each, List.map_id]
  rw [parse_of_unbracketed start, bytes, all, back]
  rfl

theorem lowerAscii_lowerAscii : ∀ n < 0x80,
    (lowerAscii (Char.ofNat n)).toNat < 0x80 ∧
      lowerAscii (lowerAscii (Char.ofNat n)) = lowerAscii (Char.ofNat n) := by decide

/-- A name that is not refused is plain. -/
theorem plain_of_decoded {bytes : List UInt8} (ascii : bytes.all (· < 0x80) = true)
    {name : List Char}
    (eq : name = (bytes.map fun b => Char.ofNat b.toNat).map lowerAscii)
    (allowed : name.any forbiddenInName = false) : Plain name := by
  have lower : ∀ c ∈ name, c.toNat < 0x80 ∧ lowerAscii c = c := by
    intro c mem
    rw [eq, List.map_map, List.mem_map] at mem
    obtain ⟨b, hb, rfl⟩ := mem
    have small : b < 0x80 := by simpa using List.all_eq_true.mp ascii b hb
    exact lowerAscii_lowerAscii b.toNat (UInt8.lt_iff_toNat_lt.mp small)
  have free : ∀ c ∈ name, forbiddenInName c = false := by
    intro c mem
    simpa using List.any_eq_false.mp allowed c mem
  refine ⟨fun c mem => (lower c mem).1, fun c mem => (lower c mem).2, ?_, ?_⟩
  · intro mem
    exact absurd (free '%' mem) (by decide)
  · intro mem
    exact absurd (free '[' mem) (by decide)

theorem splitDots_append {part : List Char} (whole : '.' ∉ part) (s : List Char) :
    splitDots (part ++ '.' :: s) = part :: splitDots s := by
  induction part with
  | nil => rfl
  | cons c part ih =>
    rw [List.mem_cons, not_or] at whole
    rw [List.cons_append, splitDots, ih whole.2]
    exact fun eq => whole.1 eq.symm

theorem splitDots_of_whole {part : List Char} (whole : '.' ∉ part) : splitDots part = [part] := by
  induction part with
  | nil => rfl
  | cons c part ih =>
    rw [List.mem_cons, not_or] at whole
    rw [splitDots, ih whole.2]
    exact fun eq => whole.1 eq.symm

theorem digit_of_mem_toDigits {n : Nat} {c : Char} (mem : c ∈ Nat.toDigits 10 n) :
    ∃ d < 10, c = Nat.digitChar d := by
  obtain ⟨ds, eq, bound, _⟩ := toDigits_eq_map (by omega : 1 < 10) n
  rw [eq, List.mem_map] at mem
  obtain ⟨d, hd, rfl⟩ := mem
  exact ⟨d, bound d hd, rfl⟩

/-- Digits run from left to right. -/
theorem not_fromRight_digitChar :
    ∀ d < 10, Direction.isFromRight (Direction.ofChar (Nat.digitChar d)) = false := by
  decide +kernel

/-- A decimal byte has no leading zero, so it is not taken for an octal number. -/
theorem numberOf?_toDigits : ∀ b < 256, numberOf? (Nat.toDigits 10 b) = some b := by
  decide +kernel

theorem decoded?_toDigits (n : Nat) :
    Domain.decoded? (Nat.toDigits 10 n) = some (Nat.toDigits 10 n) := by
  unfold Domain.decoded?
  split
  · next eq =>
    obtain ⟨d, hd, e⟩ := digit_of_mem_toDigits (eq ▸ List.mem_cons_self)
    have letter : ∀ d < 10, 'x' ≠ Nat.digitChar d := by decide
    exact absurd e (letter d hd)
  · rfl

def dotted (a b c d : Nat) : List Char :=
  Nat.toDigits 10 a ++ '.' :: Nat.toDigits 10 b ++ '.' :: Nat.toDigits 10 c ++
    '.' :: Nat.toDigits 10 d

theorem splitDots_dotted (a b c d : Nat) :
    splitDots (dotted a b c d) =
      [Nat.toDigits 10 a, Nat.toDigits 10 b, Nat.toDigits 10 c, Nat.toDigits 10 d] := by
  have whole : ∀ n, '.' ∉ Nat.toDigits 10 n := by
    intro n mem
    obtain ⟨d, hd, e⟩ := digit_of_mem_toDigits mem
    have dot : ∀ d < 10, '.' ≠ Nat.digitChar d := by decide
    exact dot d hd e
  simp only [dotted, List.append_assoc, List.cons_append]
  rw [splitDots_append (whole a), splitDots_append (whole b), splitDots_append (whole c),
    splitDots_of_whole (whole d)]

theorem parts_dotted (a b c d : Nat) :
    parts (dotted a b c d) =
      [Nat.toDigits 10 a, Nat.toDigits 10 b, Nat.toDigits 10 c, Nat.toDigits 10 d] := by
  rw [parts, splitDots_dotted]
  simp

theorem endsInNumber_dotted (a b c d : Nat) : endsInNumber (dotted a b c d) = true := by
  have digits : (Nat.toDigits 10 d).all Char.isDigit = true :=
    List.all_eq_true.mpr fun _ mem => Nat.isDigit_of_mem_toDigits (by omega) (by omega) mem
  rw [endsInNumber, parts_dotted]
  simp [digits]

theorem isValid_dotted (a b c d : Nat) : Domain.isValid (splitDots (dotted a b c d)) = true := by
  have left : ∀ n,
      ((Nat.toDigits 10 n).map Direction.ofChar).any Direction.isFromRight = false := by
    intro n
    rw [List.any_map, List.any_eq_false]
    intro c mem
    obtain ⟨d, hd, rfl⟩ := digit_of_mem_toDigits mem
    simp [not_fromRight_digitChar d hd]
  rw [Domain.isValid, splitDots_dotted]
  simp [decoded?_toDigits, Domain.directionsAgree, left]

theorem ipv4?_dotted {a b c d : Nat} (ha : a < 256) (hb : b < 256) (hc : c < 256) (hd : d < 256) :
    ipv4? (dotted a b c d) = some (((a * 256 + b) * 256 + c) * 256 + d) := by
  rw [ipv4?, parts_dotted]
  simp [numberOf?_toDigits, ha, hb, hc, hd, addressOf]
  omega

theorem ipv4Text_eq (address : Nat) :
    ipv4Text address = dotted (address / 16777216 % 256) (address / 65536 % 256)
      (address / 256 % 256) (address % 256) := by
  simp [ipv4Text, dotted]

theorem mem_dotted {a b c d : Nat} {x : Char} (mem : x ∈ dotted a b c d) :
    x = '.' ∨ ∃ d < 10, x = Nat.digitChar d := by
  simp only [dotted, List.mem_append, List.mem_cons] at mem
  rcases mem with (((mem | rfl | mem) | rfl | mem) | rfl | mem)
  · exact Or.inr (digit_of_mem_toDigits mem)
  · exact Or.inl rfl
  · exact Or.inr (digit_of_mem_toDigits mem)
  · exact Or.inl rfl
  · exact Or.inr (digit_of_mem_toDigits mem)
  · exact Or.inl rfl
  · exact Or.inr (digit_of_mem_toDigits mem)

theorem forall_mem_dotted {p : Char → Prop} (dot : p '.') (digit : ∀ d < 10, p (Nat.digitChar d))
    (a b c d : Nat) : ∀ x ∈ dotted a b c d, p x := by
  intro x mem
  rcases mem_dotted mem with rfl | ⟨d, hd, rfl⟩
  · exact dot
  · exact digit d hd

theorem plain_dotted (a b c d : Nat) : Plain (dotted a b c d) where
  ascii := forall_mem_dotted (by decide) (by decide) a b c d
  small := forall_mem_dotted (by decide) (by decide) a b c d
  unescaped mem := forall_mem_dotted (p := (· ≠ '%')) (by decide) (by decide) a b c d _ mem rfl
  unbracketed mem := forall_mem_dotted (p := (· ≠ '[')) (by decide) (by decide) a b c d _ mem rfl

/-- Four decimal bytes stand for themselves. -/
theorem parse_ipv4Text (address : Nat) : parse (ipv4Text address) = .ok (ipv4Text address) := by
  rw [ipv4Text_eq]
  generalize ha : address / 16777216 % 256 = a
  generalize hb : address / 65536 % 256 = b
  generalize hc : address / 256 % 256 = c
  generalize hd : address % 256 = d
  have allowed : (dotted a b c d).any forbiddenInName = false := by
    rw [List.any_eq_false]
    intro x mem
    have free := forall_mem_dotted (p := fun x => forbiddenInName x = false) (by decide) (by decide)
      a b c d x mem
    simp [free]
  have present : (dotted a b c d).isEmpty = false := by simp [dotted]
  have again : ipv4Text (((a * 256 + b) * 256 + c) * 256 + d) = dotted a b c d := by
    rw [ipv4Text_eq]
    congr 1 <;> omega
  rw [parse_of_plain (plain_dotted a b c d), judged, allowed, isValid_dotted, present,
    endsInNumber_dotted, ipv4?_dotted (by omega) (by omega) (by omega) (by omega)]
  simp [again]

theorem mem_joinColons {pieces : List Nat} {x : Char} (mem : x ∈ joinColons pieces) :
    x = ':' ∨ ∃ d < 16, x = Nat.digitChar d := by
  have digits : ∀ p, x ∈ Nat.toDigits 16 p → x = ':' ∨ ∃ d < 16, x = Nat.digitChar d := by
    intro p mem
    obtain ⟨ds, eq, bound, _⟩ := toDigits_eq_map (by omega : 1 < 16) p
    rw [eq, List.mem_map] at mem
    obtain ⟨d, hd, rfl⟩ := mem
    exact Or.inr ⟨d, bound d hd, rfl⟩
  induction pieces with
  | nil => exact absurd mem List.not_mem_nil
  | cons p rest ih =>
    cases rest with
    | nil =>
      rw [joinColons_singleton] at mem
      exact digits p mem
    | cons q rest =>
      rw [joinColons_cons, List.mem_append, List.mem_cons] at mem
      rcases mem with mem | rfl | mem
      · exact digits p mem
      · exact Or.inl rfl
      · exact ih mem

theorem forall_mem_ipv6Text {p : Char → Prop} (colon : p ':')
    (digit : ∀ d < 16, p (Nat.digitChar d)) (pieces : List Nat) :
    ∀ x ∈ ipv6Text pieces, p x := by
  have joined : ∀ ps, ∀ x ∈ joinColons ps, p x := by
    intro ps x mem
    rcases mem_joinColons mem with rfl | ⟨d, hd, rfl⟩
    · exact colon
    · exact digit d hd
  intro x mem
  simp only [ipv6Text] at mem
  split at mem
  · exact joined _ x mem
  · simp only [List.mem_append, List.mem_cons, List.not_mem_nil, or_false] at mem
    rcases mem with (mem | rfl | rfl) | mem
    · exact joined _ x mem
    · exact colon
    · exact colon
    · exact joined _ x mem

theorem parse_bracketed {pieces : List Nat} (h : Address6 pieces) :
    parse ('[' :: ipv6Text pieces ++ [']']) = .ok ('[' :: ipv6Text pieces ++ [']']) := by
  change bracketed (ipv6Text pieces ++ [']']) = _
  simp only [bracketed, List.getLast?_concat, List.dropLast_concat, ipv6?_text h]

/-- A host as an authority holds it after reading. -/
structure Written (host : List Char) : Prop where
  parsed : parse host = .ok host
  present : host ≠ []
  inside : ∀ c ∈ host, Url.inAuthority c = true ∧ c ≠ '@'
  spanned : ∀ rest, rest.head?.getD ':' = ':' → Url.spanHost false (host ++ rest) = (host, rest)

end Host

theorem Url.spanHost_colon {rest : List Char} (stop : rest.head?.getD ':' = ':') :
    spanHost false rest = ([], rest) := by
  cases rest with
  | nil => rfl
  | cons c rest =>
    have colon : c = ':' := stop
    rw [spanHost, if_pos ⟨colon, rfl⟩]

theorem Url.spanHost_name {name : List Char}
    (plain : ∀ c ∈ name, c ≠ ':' ∧ c ≠ '[' ∧ c ≠ ']') {rest : List Char}
    (stop : rest.head?.getD ':' = ':') : spanHost false (name ++ rest) = (name, rest) := by
  induction name with
  | nil => exact spanHost_colon stop
  | cons c name ih =>
    obtain ⟨colon, opening, closing⟩ := plain c List.mem_cons_self
    rw [List.cons_append, spanHost, if_neg (fun h => colon h.1), if_neg opening, if_neg closing,
      ih fun d mem => plain d (List.mem_cons_of_mem c mem)]

theorem Url.spanHost_brackets {text : List Char} (plain : ∀ c ∈ text, c ≠ '[' ∧ c ≠ ']')
    {rest : List Char} (stop : rest.head?.getD ':' = ':') :
    spanHost true (text ++ ']' :: rest) = (text ++ [']'], rest) := by
  induction text with
  | nil =>
    rw [List.nil_append, spanHost, if_neg (by simp), if_neg (by decide), if_pos rfl,
      spanHost_colon stop]
    rfl
  | cons c text ih =>
    obtain ⟨opening, closing⟩ := plain c List.mem_cons_self
    rw [List.cons_append, spanHost, if_neg (by simp), if_neg opening, if_neg closing,
      ih fun d mem => plain d (List.mem_cons_of_mem c mem)]
    rfl

namespace Host

theorem written_of_name {name : List Char} (parsed : parse name = .ok name)
    (present : name ≠ []) (plain : Plain name) (allowed : name.any forbiddenInName = false) :
    Written name where
  parsed := parsed
  present := present
  inside c mem := by
    have ascii := plain.ascii c mem
    have free : forbiddenInName c = false := by simpa using List.any_eq_false.mp allowed c mem
    have all : ∀ n < 0x80, forbiddenInName (Char.ofNat n) = false →
        Url.inAuthority (Char.ofNat n) = true ∧ Char.ofNat n ≠ '@' := by decide
    exact Percent.forall_ascii
      (p := fun c => forbiddenInName c = false → Url.inAuthority c = true ∧ c ≠ '@') all ascii free
  spanned rest stop := by
    apply Url.spanHost_name _ stop
    intro c mem
    have free : forbiddenInName c = false := by simpa using List.any_eq_false.mp allowed c mem
    refine ⟨?_, ?_, ?_⟩ <;> rintro rfl <;> exact absurd free (by decide)

theorem written_ipv4Text (address : Nat) : Written (ipv4Text address) := by
  have parsed := parse_ipv4Text address
  rw [ipv4Text_eq] at parsed ⊢
  apply written_of_name parsed (by simp [dotted]) (plain_dotted _ _ _ _)
  rw [List.any_eq_false]
  intro x mem
  have free := forall_mem_dotted (p := fun x => forbiddenInName x = false) (by decide) (by decide)
    _ _ _ _ x mem
  simp [free]

theorem written_bracketed {pieces : List Nat} (h : Address6 pieces) :
    Written ('[' :: ipv6Text pieces ++ [']']) where
  parsed := parse_bracketed h
  present := List.cons_ne_nil _ _
  inside c mem := by
    simp only [List.cons_append, List.mem_cons, List.mem_append, List.not_mem_nil, or_false] at mem
    rcases mem with rfl | mem | rfl
    · decide
    · exact forall_mem_ipv6Text (p := fun c => Url.inAuthority c = true ∧ c ≠ '@') (by decide)
        (by decide) pieces c mem
    · decide
  spanned rest stop := by
    have plain := forall_mem_ipv6Text (p := fun c => c ≠ '[' ∧ c ≠ ']') (by decide) (by decide)
      pieces
    rw [List.cons_append, List.cons_append, List.append_assoc, List.singleton_append, Url.spanHost,
      if_neg (by decide), if_pos rfl, Url.spanHost_brackets plain stop]

theorem written_of_judged {bytes : List UInt8} (ascii : bytes.all (· < 0x80) = true)
    {host : List Char}
    (h : judged ((bytes.map fun b => Char.ofNat b.toNat).map lowerAscii) = .ok host) :
    Written host := by
  obtain ⟨name, eq⟩ : ∃ name, name = (bytes.map fun b => Char.ofNat b.toNat).map lowerAscii :=
    ⟨_, rfl⟩
  rw [← eq] at h
  have whole := h
  unfold judged at h
  split at h
  · cases h
  · next valid =>
    rw [not_or] at valid
    have allowed : name.any forbiddenInName = false := by simpa using valid.1
    have plain := plain_of_decoded ascii eq allowed
    split at h
    · cases h
    · next present =>
      split at h
      · split at h
        · cases h
          exact written_ipv4Text _
        · cases h
      · cases h
        refine written_of_name ?_ (by simpa using present) plain allowed
        rw [parse_of_plain plain, whole]

/-- Every host that is read is in its written form. -/
theorem written_of_parse {s host : List Char} (h : parse s = .ok host) : Written host := by
  by_cases start : s.head? = some '['
  · obtain ⟨inside, rfl⟩ : ∃ inside, s = '[' :: inside := by
      cases s with
      | nil => cases start
      | cons c inside =>
        cases start
        exact ⟨inside, rfl⟩
    change bracketed inside = .ok host at h
    unfold bracketed at h
    split at h
    · split at h
      · next pieces eq =>
        cases h
        exact written_bracketed (address6_of_ipv6? eq)
      · cases h
    · cases h
  · rw [parse_of_unbracketed start] at h
    split at h
    · next ascii => exact written_of_judged ascii h
    · cases h

end Host

end RackInventory
