import RackInventory.Proofs.Text.Trimming
import RackInventory.Proofs.Url.Authority
import RackInventory.Proofs.Url.Path

/-!
# Addresses are read back as they are written

Reading an address of a well-known scheme gives a written authority and a path of written segments.
An address of this kind that has no fragment, and whose query needs no encoding, is what its own text
stands for. Files and the schemes that are not well known are left out.
-/

namespace RackInventory

/-- An address as it is after reading, apart from its query and its fragment. -/
structure Url.Written (u : Url) : Prop where
  special : u.kind = .special
  authority : ∃ a, u.authority = some a ∧ a.Written u.scheme
  unguarded : u.guarded = false
  path : ∃ all, u.path = .segments all ∧ all ≠ [] ∧ ∀ s ∈ all, s.Written

namespace Url

def endsAuthority (scheme : List Char) (c : Char) : Bool :=
  isSeparator (SchemeKind.ofScheme scheme).isSpecial c || endsPath c

def completed (scheme : List Char) (a : Authority) (s : List Char) : Url :=
  withTail
    { scheme, authority := some a, guarded := false
      path := readPath (.ofScheme scheme) (s.takeWhile (!endsPath ·))
      query := none, fragment := none }
    (s.dropWhile (!endsPath ·))

/-- What becomes of an authority and of the text behind it. -/
def readParts (scheme front back : List Char) : Except Error Url :=
  let (user, hostPort) := cutAtLastMark front
  if user = some [] ∧ hostPort.isEmpty ∧ back ≠ [] then .error .emptyHost
  else
    (readHostPort scheme (userText (user.getD [])) hostPort).map fun (a, after) =>
      completed scheme a (after ++ back)

theorem readAuthority_eq (scheme s : List Char) :
    readAuthority scheme s = readParts scheme (s.takeWhile (!endsAuthority scheme ·))
      (s.dropWhile (!endsAuthority scheme ·)) := by
  unfold readAuthority readParts endsAuthority
  obtain ⟨⟨user, hostPort⟩, cut⟩ : ∃ cut, cutAtLastMark (s.takeWhile fun c =>
    !(isSeparator (SchemeKind.ofScheme scheme).isSpecial c || endsPath c)) = cut := ⟨_, rfl⟩
  simp only [cut, bind, Except.bind, pure, Except.pure, throw, throwThe, MonadExceptOf.throw]
  split
  · rfl
  · cases readHostPort scheme (userText (user.getD [])) hostPort with
    | error cause => rfl
    | ok found => rfl

theorem readAuthority_append {scheme front back : List Char}
    (inside : ∀ c ∈ front, endsAuthority scheme c = false)
    (stop : ∀ c ∈ back.head?, endsAuthority scheme c = true) :
    readAuthority scheme (front ++ back) = readParts scheme front back := by
  have free : ∀ c ∈ front, (!endsAuthority scheme c) = true := fun c mem => by simp [inside c mem]
  rw [readAuthority_eq, List.takeWhile_append_of_pos free, List.dropWhile_append_of_pos free]
  cases back with
  | nil => simp
  | cons c back => simp [stop c rfl]

theorem readAuthority_ok {scheme s : List Char} {u : Url} (h : readAuthority scheme s = .ok u) :
    ∃ user hostPort a after rest,
      readHostPort scheme (userText user) hostPort = .ok (a, after) ∧
        u = completed scheme a rest := by
  rw [readAuthority_eq] at h
  unfold readParts at h
  dsimp only at h
  split at h
  · cases h
  · generalize found : readHostPort _ _ _ = result at h
    cases result with
    | error cause => cases h
    | ok pair =>
      cases h
      exact ⟨_, _, _, _, _, found, rfl⟩

theorem readFile_ok {text s : List Char} {u : Url} (h : readFile text s = .ok u) :
    ∃ host rest, u = fileUrl text host rest := by
  unfold readFile at h
  simp only [bind, Except.bind, pure, Except.pure] at h
  split at h
  · split at h
    · split at h
      · cases h
      · exact ⟨_, _, (Except.ok.inj h).symm⟩
    · exact ⟨_, _, (Except.ok.inj h).symm⟩
  · exact ⟨_, _, (Except.ok.inj h).symm⟩

theorem readFile_scheme {text s : List Char} {u : Url} (h : readFile text s = .ok u) :
    u.scheme = "file".toList := by
  obtain ⟨host, rest, rfl⟩ := readFile_ok h
  rfl

theorem readOther_scheme {scheme s : List Char} {u : Url} (h : readOther scheme s = .ok u) :
    u.scheme = scheme := by
  unfold readOther at h
  split at h
  · obtain ⟨_, _, _, _, _, _, rfl⟩ := readAuthority_ok h
    rfl
  · dsimp only at h
    split at h
    · rw [← Except.ok.inj h]
      rfl
    · rw [← Except.ok.inj h]
      rfl

theorem written_of_readAuthority {scheme s : List Char} {u : Url}
    (special : SchemeKind.ofScheme scheme = .special) (h : readAuthority scheme s = .ok u) :
    u.Written := by
  obtain ⟨user, hostPort, a, after, rest, found, rfl⟩ := readAuthority_ok h
  obtain ⟨all, eq, some, written⟩ := readPath_written (rest.takeWhile (!endsPath ·))
  have good : a.Written scheme :=
    readHostPort_written (by rw [special]; rfl) (userText_written user) found
  refine ⟨special, ⟨a, rfl, good⟩, rfl, all, ?_, some, written⟩
  change readPath (.ofScheme scheme) _ = _
  rw [special, eq]

/-- An address of a well-known scheme has been read from what follows its colon. -/
theorem readAuthority_of_parse {s : String} {u : Url} (h : parse s = .ok u)
    (special : u.kind = .special) :
    ∃ rest, scheme? (significant s.toList) = some (u.scheme, rest) ∧
      readAuthority u.scheme (rest.dropWhile (isSeparator true)) = .ok u := by
  unfold parse at h
  split at h
  · cases h
  · next scheme rest start =>
    split at h
    · have file := readFile_scheme h
      rw [kind, file] at special
      exact absurd special (by decide)
    · obtain ⟨_, _, _, _, _, _, rfl⟩ := readAuthority_ok h
      exact ⟨rest, start, h⟩
    · next known =>
      have other := readOther_scheme h
      rw [kind, other, known] at special
      cases special

theorem parse_of_scheme? {s : String} {scheme rest : List Char}
    (start : scheme? (significant s.toList) = some (scheme, rest))
    (special : SchemeKind.ofScheme scheme = .special) :
    parse s = readAuthority scheme (rest.dropWhile (isSeparator true)) := by
  unfold parse
  rw [start]
  dsimp only
  rw [special]

/-- Every address of a well-known scheme that is read is in its written form. -/
theorem written_of_parse {s : String} {u : Url} (h : parse s = .ok u)
    (special : u.kind = .special) : u.Written := by
  obtain ⟨rest, _, read⟩ := readAuthority_of_parse h special
  exact written_of_readAuthority special read

theorem significant_of_visible {s : List Char} (visible : ∀ c ∈ s, isVisible c = true) :
    significant s = s := by
  have high : ∀ c ∈ s, 0x20 < c.toNat := fun c mem => (isVisible_iff.mp (visible c mem)).1
  have inside : trimmed s = s := by
    apply trimBoth_of_none
    intro c mem
    have low := high c mem
    rw [decide_eq_false_iff_not]
    omega
  have shown : ∀ c ∈ s, (!Segment.isIgnored c) = true := by
    intro c mem
    rw [Segment.not_isIgnored (high c mem)]
    rfl
  rw [significant, inside, List.filter_eq_self.mpr shown]

theorem mem_of_special {scheme : List Char} (special : SchemeKind.ofScheme scheme = .special) :
    scheme ∈ ["http", "https", "ws", "wss", "ftp"].map String.toList := by
  unfold SchemeKind.ofScheme at special
  have name : ∀ t : String, String.ofList scheme = t → scheme = t.toList := by
    rintro t rfl
    exact String.toList_ofList.symm
  split at special
  case h_6 | h_7 => cases special
  all_goals
    next eq =>
      rw [name _ eq]
      decide

theorem special_of_web {u : Url} (web : u.scheme = "http".toList ∨ u.scheme = "https".toList) :
    u.kind = .special := by
  rcases web with eq | eq <;> rw [kind, eq] <;> decide

theorem scheme?_special {scheme : List Char} (special : SchemeKind.ofScheme scheme = .special)
    (rest : List Char) : scheme? (scheme ++ ':' :: rest) = some (scheme, rest) := by
  have known := mem_of_special special
  simp only [List.map_cons, List.map_nil, List.mem_cons, List.not_mem_nil, or_false] at known
  rcases known with rfl | rfl | rfl | rfl | rfl <;> rfl

theorem visible_of_special {scheme : List Char} (special : SchemeKind.ofScheme scheme = .special) :
    ∀ c ∈ scheme, isVisible c = true := by
  have known := mem_of_special special
  simp only [List.map_cons, List.map_nil, List.mem_cons, List.not_mem_nil, or_false] at known
  rcases known with rfl | rfl | rfl | rfl | rfl <;> exact List.all_eq_true.mp (by decide)

theorem ends_of_inAuthority {c : Char} (h : inAuthority c = true) :
    isVisible c = true ∧ isSeparator true c = false ∧ endsPath c = false := by
  simp only [inAuthority, Bool.and_eq_true, Bool.not_eq_true', List.contains_eq_mem,
    decide_eq_false_iff_not, List.mem_cons, List.not_mem_nil, or_false, not_or] at h
  obtain ⟨visible, slash, backslash, question, hash⟩ := h
  refine ⟨visible, ?_, ?_⟩
  · simp [isSeparator, slash, backslash]
  · simp [endsPath, question, hash]

theorem inside_pathText {all : List Segment} (written : ∀ s ∈ all, s.Written) :
    ∀ c ∈ UrlPath.text (.segments all), isVisible c = true ∧ endsPath c = false := by
  intro c mem
  obtain ⟨s, hs, mem⟩ := List.mem_flatMap.mp mem
  rcases List.mem_cons.mp mem with rfl | mem
  · decide
  · exact (written s hs).visible mem

theorem endsAuthority_special {scheme : List Char} (special : SchemeKind.ofScheme scheme = .special)
    (c : Char) : endsAuthority scheme c = (isSeparator true c || endsPath c) := by
  rw [endsAuthority, special]
  rfl

def KeptQuery (query : Option (List Char)) : Prop :=
  ∀ q ∈ query, Percent.Kept (Percent.querySet true) q

theorem KeptQuery.none : KeptQuery none := by
  intro q given
  cases given

theorem visible_of_querySet {c : Char} (ascii : c.toNat < 0x80)
    (free : Percent.querySet true c = false) : isVisible c = true ∧ c ≠ '#' := by
  have each : ∀ n < 0x80, Percent.querySet true (Char.ofNat n) = false →
      isVisible (Char.ofNat n) = true ∧ Char.ofNat n ≠ '#' := by decide
  exact Percent.forall_ascii
    (p := fun c => Percent.querySet true c = false → isVisible c = true ∧ c ≠ '#') each ascii free

theorem visible_query {query : Option (List Char)} (kept : KeptQuery query) :
    ∀ c ∈ marked '?' query, isVisible c = true := by
  intro c mem
  cases query with
  | none => exact absurd mem List.not_mem_nil
  | some q =>
    rcases List.mem_cons.mp mem with rfl | mem
    · decide
    · obtain ⟨ascii, free⟩ := kept q rfl c mem
      exact (visible_of_querySet ascii free).1

/-- A query is read back. -/
theorem withTail_query {scheme : List Char} (special : SchemeKind.ofScheme scheme = .special)
    (a : Option Authority) (path : UrlPath) {query : Option (List Char)} (kept : KeptQuery query) :
    withTail ⟨scheme, a, false, path, none, none⟩ (marked '?' query) =
      ⟨scheme, a, false, path, query, none⟩ := by
  cases query with
  | none => rfl
  | some q =>
    have inside : ∀ c ∈ q, decide (c ≠ '#') = true := fun c mem =>
      decide_eq_true (visible_of_querySet (kept q rfl c mem).1 (kept q rfl c mem).2).2
    have noHash : ('?' :: q).dropWhile (· ≠ '#') = [] := by
      rw [List.dropWhile_cons_of_pos (by decide), List.dropWhile_eq_nil_iff.mpr inside]
    simp only [withTail, marked, kind, special, noHash, List.takeWhile_eq_self_iff.mpr inside]
    rw [show SchemeKind.special.isSpecial = true from rfl, Percent.encode_of_kept (kept q rfl)]

theorem completed_pathText {scheme : List Char} (special : SchemeKind.ofScheme scheme = .special)
    (a : Authority) {all : List Segment} (present : all ≠ []) (written : ∀ s ∈ all, s.Written)
    {query : Option (List Char)} (kept : KeptQuery query) :
    completed scheme a (UrlPath.text (.segments all) ++ marked '?' query) =
      ⟨scheme, some a, false, .segments all, query, none⟩ := by
  have free : ∀ c ∈ UrlPath.text (.segments all), (!endsPath c) = true := by
    intro c mem
    simp [(inside_pathText written c mem).2]
  have stop : (marked '?' query).takeWhile (!endsPath ·) = [] ∧
      (marked '?' query).dropWhile (!endsPath ·) = marked '?' query := by
    cases query <;> exact ⟨rfl, rfl⟩
  rw [completed, List.takeWhile_append_of_pos free, List.dropWhile_append_of_pos free, stop.1,
    stop.2, List.append_nil, special, readPath_text present written,
    withTail_query special _ _ kept]

theorem readAuthority_text {scheme : List Char} (special : SchemeKind.ofScheme scheme = .special)
    {a : Authority} (good : a.Written scheme) {all : List Segment} (present : all ≠ [])
    (written : ∀ s ∈ all, s.Written) {query : Option (List Char)} (kept : KeptQuery query) :
    readAuthority scheme
        (a.user ++ a.hostPort ++ (UrlPath.text (.segments all) ++ marked '?' query)) =
      .ok ⟨scheme, some a, false, .segments all, query, none⟩ := by
  have inside : ∀ c ∈ a.user ++ a.hostPort, endsAuthority scheme c = false := by
    intro c mem
    obtain ⟨_, separator, ends⟩ := ends_of_inAuthority (inAuthority_text good c mem)
    rw [endsAuthority_special special, separator, ends]
    rfl
  have stop : ∀ c ∈ (UrlPath.text (.segments all) ++ marked '?' query).head?,
      endsAuthority scheme c = true := by
    obtain ⟨first, more, rfl⟩ := List.exists_cons_of_ne_nil present
    intro c slash
    cases slash
    rw [endsAuthority_special special]
    rfl
  obtain ⟨user, cut, again⟩ := cutAtLastMark_text good
  have host : (a.hostPort).isEmpty = false := by simpa using hostPort_ne_nil good
  have pair : readHostPort scheme a.user a.hostPort = .ok (a, []) :=
    readHostPort_hostPort good (by rw [special]; rfl)
  rw [readAuthority_append inside stop, readParts, cut]
  simp only [host, again, pair, Except.map, List.nil_append,
    completed_pathText special a present written kept]
  simp

theorem chars_of_written {u : Url} {a : Authority} {all : List Segment}
    (authority : u.authority = some a) (unguarded : u.guarded = false)
    (path : u.path = .segments all) (noFragment : u.fragment = none) :
    u.chars = u.scheme ++ ':' :: '/' :: '/' ::
      (a.user ++ a.hostPort ++ (UrlPath.text (.segments all) ++ marked '?' u.query)) := by
  have fragment : marked '#' none = [] := rfl
  simp [chars, authority, unguarded, path, noFragment, fragment, Authority.text]

theorem visible_chars {u : Url} (h : u.Written) (kept : KeptQuery u.query)
    (noFragment : u.fragment = none) : ∀ c ∈ u.chars, isVisible c = true := by
  obtain ⟨special, ⟨a, authority, good⟩, unguarded, all, path, _, written⟩ := h
  rw [chars_of_written authority unguarded path noFragment]
  intro c mem
  rcases List.mem_append.mp mem with mem | mem
  · exact visible_of_special special c mem
  · rw [List.mem_cons, List.mem_cons, List.mem_cons, List.mem_append] at mem
    rcases mem with rfl | rfl | rfl | mem | mem
    · decide
    · decide
    · decide
    · exact (ends_of_inAuthority (inAuthority_text good c mem)).1
    · rcases List.mem_append.mp mem with mem | mem
      · exact (inside_pathText written c mem).1
      · exact visible_query kept c mem

/-- An address with a query is what its own text stands for. -/
theorem parse_text_query {u : Url} (h : u.Written) (kept : KeptQuery u.query)
    (noFragment : u.fragment = none) : parse u.text = .ok u := by
  have visible := visible_chars h kept noFragment
  obtain ⟨special, ⟨a, authority, good⟩, unguarded, all, path, present, written⟩ := h
  have start : ('/' :: '/' :: (a.user ++ a.hostPort ++
      (UrlPath.text (.segments all) ++ marked '?' u.query))).dropWhile (isSeparator true) =
        a.user ++ a.hostPort ++ (UrlPath.text (.segments all) ++ marked '?' u.query) := by
    change (a.user ++ a.hostPort ++ _).dropWhile _ = _
    obtain ⟨c, rest, eq⟩ := List.exists_cons_of_ne_nil
      (List.append_ne_nil_of_right_ne_nil a.user (hostPort_ne_nil good))
    have inside := inAuthority_text good c (eq ▸ List.mem_cons_self)
    rw [eq, List.cons_append,
      List.dropWhile_cons_of_neg (by simp [(ends_of_inAuthority inside).2.1])]
  have scheme : scheme? (significant u.text.toList) = some (u.scheme, '/' :: '/' ::
      (a.user ++ a.hostPort ++ (UrlPath.text (.segments all) ++ marked '?' u.query))) := by
    rw [text, String.toList_ofList, significant_of_visible visible,
      chars_of_written authority unguarded path noFragment, scheme?_special special]
  rw [parse_of_scheme? scheme special, start, readAuthority_text special good present written kept]
  change _ = Except.ok (⟨u.scheme, u.authority, u.guarded, u.path, u.query, u.fragment⟩ : Url)
  rw [authority, unguarded, path, noFragment]

/-- An address is what its own text stands for. -/
theorem parse_text {u : Url} (h : u.Written) (noQuery : u.query = none)
    (noFragment : u.fragment = none) : parse u.text = .ok u :=
  parse_text_query h (noQuery ▸ .none) noFragment

theorem trimBlanks_text {u : Url} (h : u.Written) (noQuery : u.query = none)
    (noFragment : u.fragment = none) : trimBlanks u.text = u.text := by
  have visible := visible_chars h (noQuery ▸ .none) noFragment
  have full : ∀ c ∈ u.chars, isBlank c = false := by
    intro c mem
    have range := isVisible_iff.mp (visible c mem)
    rw [← Bool.not_eq_true]
    intro blank
    have apart := apart_of_isBlank blank
    omega
  rw [trimBlanks, text, String.toList_ofList, trimBoth_of_none full]

end Url

end RackInventory
