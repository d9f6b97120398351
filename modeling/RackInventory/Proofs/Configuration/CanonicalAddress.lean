import RackInventory.Proofs.Configuration.BaseAddress
import RackInventory.Proofs.Url.Form

/-!
# Base addresses are canonical

Whether there is a base address depends on the server alone. On the web there always is one: it has
the scheme, the user, the host and the port of the server, no query and no fragment, and its path is
a list of segments between single slashes. Slashes that are missing or doubled, in the server or in
the version, make no difference.

Other schemes keep two traces of empty segments. A server without any path has no base address,
though one with a path of nothing but a slash has one. And a dot that keeps a path from looking like
an authority stays in the base address when the empty segment behind it is gone.

Versions with tabs or line breaks are left out where the path is described: these are dropped only
after it was decided what is a dot. Servers whose host is named beyond ASCII are left out altogether.
-/

namespace RackInventory

namespace Url

/-- Whether two addresses differ at most in empty segments, in the query and in the fragment. -/
structure Alike (u v : Url) : Prop where
  scheme : u.scheme = v.scheme
  authority : u.authority = v.authority
  named : u.named = v.named

/-- Whether an address has single slashes around its segments, and nothing behind the last one. -/
structure Canonical (u : Url) : Prop where
  path : ∃ inner, u.path = .segments (inner ++ [[]]) ∧ (∀ s ∈ inner, s ≠ [] ∧ '/' ∉ s) ∧
    u.path.text = '/' :: inner.flatMap (· ++ ['/'])
  query : u.query = none
  fragment : u.fragment = none

theorem text_segments_concat (inner : List Segment) :
    UrlPath.text (.segments (inner ++ [[]])) = '/' :: inner.flatMap (· ++ ['/']) := by
  induction inner with
  | nil => rfl
  | cons s rest ih =>
    change '/' :: (s ++ UrlPath.text (.segments (rest ++ [[]]))) = _
    rw [ih, List.flatMap_cons, List.append_assoc]
    rfl

theorem trimStart_ne_nil (path : List Segment) : Segment.trimStart true path ≠ [] := by
  rw [Segment.trimStart, if_pos rfl]
  split
  · exact List.cons_ne_nil _ _
  · next some => exact some

theorem fileUrl_segments (text : List Char) (host : Option (List Char)) (rest : List Char) :
    (fileUrl text host rest).guarded = false ∧ ∃ all, (fileUrl text host rest).segments? = some all :=
  ⟨rfl, _, segments?_of_path rfl (trimStart_ne_nil _)⟩

/-- An address of a well-known scheme has segments, and no dot in front of them. -/
theorem segments_of_parse {s : String} {u : Url} (h : parse s = .ok u) (known : u.kind ≠ .other) :
    u.guarded = false ∧ ∃ all, u.segments? = some all := by
  cases kind : u.kind with
  | other => exact absurd kind known
  | special =>
    have written := written_of_parse h kind
    obtain ⟨all, segments, _⟩ := written.segments?
    exact ⟨written.unguarded, all, segments⟩
  | file =>
    unfold parse at h
    split at h
    · cases h
    · next scheme rest start =>
      split at h
      · obtain ⟨_, _, rfl⟩ := readFile_ok h
        exact fileUrl_segments _ _ _
      · next special =>
        obtain ⟨_, _, _, _, _, _, rfl⟩ := readAuthority_ok h
        have same : SchemeKind.ofScheme scheme = .file := kind
        rw [special] at same
        cases same
      · next other =>
        rw [Url.kind, readOther_scheme h, other] at kind
        cases kind

end Url

namespace Configuration

def partsOf (version : String) : List (List Char) :=
  (Form.split '/' version.toList).filter (!·.isEmpty)

theorem segmentsOf_eq (server : List Segment) (version : String) :
    segmentsOf server version = server.filter (!·.isEmpty) ++ partsOf version :=
  List.filter_append ..

inductive Stop where
  | unread (cause : Url.Error)
  | withoutSegments
  | unwritable
deriving DecidableEq

def Stop.cause : Stop → Option Url.Error
  | .unread cause => some cause
  | .withoutSegments => none
  | .unwritable => none

/-- The address with other segments, if it can have segments at all. -/
def rewritten? (u : Url) (all : List Segment) : Option Url :=
  match u.path with
  | .segments _ => some (u.withSegments all)
  | .plain _ => none

/-- The base address, made in three steps: the server is read, its segments are taken, and a path is
written in their place. -/
def inSteps (c : Configuration) : Except Stop Url :=
  match Url.parse (trimBlanks c.server) with
  | .error cause => .error (.unread cause)
  | .ok u =>
    match u.segments? with
    | none => .error .withoutSegments
    | some server =>
      match rewritten? u (u.extended [[]] (segmentsOf server c.version ++ [[]])) with
      | none => .error .unwritable
      | some v => .ok { v with query := none, fragment := none }

theorem rewritten?_of_segments {u : Url} {all : List Segment} (h : u.segments? = some all)
    (path : List Segment) : rewritten? u path = some (u.withSegments path) := by
  unfold Url.segments? at h
  unfold rewritten?
  split at h
  · next eq => rw [eq]
  · cases h

theorem baseUrl_eq_inSteps (c : Configuration) :
    c.baseUrl = c.inSteps.mapError fun stop => ⟨c.server, stop.cause⟩ := by
  unfold baseUrl inSteps
  cases Url.parse (trimBlanks c.server) with
  | error cause => rfl
  | ok u =>
    dsimp only
    cases segments : u.segments? with
    | none => rfl
    | some server =>
      dsimp only
      rw [rewritten?_of_segments segments]
      rfl

/-- What has segments can be given others. -/
theorem inSteps_ne_unwritable (c : Configuration) : c.inSteps ≠ .error .unwritable := by
  unfold inSteps
  split
  · nofun
  · split
    · nofun
    · next segments =>
      rw [rewritten?_of_segments segments]
      nofun

/-- Every base address is made from the segments of its server. -/
theorem exists_of_baseUrl {c : Configuration} {b : Url} (h : c.baseUrl = .ok b) :
    ∃ u all, Url.parse (trimBlanks c.server) = .ok u ∧ u.segments? = some all ∧
      b = addressWith u all c.version := by
  rcases parsed : Url.parse (trimBlanks c.server) with cause | u
  · rw [baseUrl_of_error parsed] at h
    cases h
  · rcases segments : u.segments? with _ | all
    · rw [baseUrl_of_no_segments parsed segments] at h
      cases h
    · rw [baseUrl_of_segments parsed segments, Except.ok.injEq] at h
      exact ⟨u, all, rfl, segments, h.symm⟩

/-- The version has no part in a failure. -/
theorem baseUrl_decided (server : String) :
    (∃ e, ∀ version, baseUrl ⟨server, version⟩ = .error e) ∨
      ∀ version, ∃ b, baseUrl ⟨server, version⟩ = .ok b := by
  rcases parsed : Url.parse (trimBlanks server) with cause | u
  · exact .inl ⟨_, baseUrl_of_error parsed⟩
  · rcases segments : u.segments? with _ | all
    · exact .inl ⟨_, baseUrl_of_no_segments parsed segments⟩
    · exact .inr fun version => ⟨_, baseUrl_of_segments parsed segments version⟩

theorem unbroken_of_mem_segmentsOf {server : List Segment} (written : ∀ s ∈ server, s.Written)
    {version : String} (unbroken : ∀ c ∈ version.toList, Segment.isIgnored c = false) :
    ∀ text ∈ segmentsOf server version, ∀ c ∈ text, Segment.isIgnored c = false := by
  intro text mem c inside
  rcases List.mem_append.mp (List.mem_filter.mp mem).1 with mem | mem
  · exact (written text mem).unbroken c inside
  · exact unbroken c (Form.mem_of_mem_split mem inside)

theorem full_of_mem_segmentsOf {server : List Segment} {version : String} :
    ∀ text ∈ segmentsOf server version, text ≠ [] := by
  intro text mem
  simpa using (List.mem_filter.mp mem).2

/-- The segments of a base address, in front of the empty one at its end. -/
def inner (server : List Segment) (version : String) : List Segment :=
  (Segment.undotted (segmentsOf server version)).map (Percent.encode (Percent.segmentSet true))

theorem inner_clean {server : List Segment} {version : String} :
    ∀ s ∈ inner server version, s ≠ [] ∧ '/' ∉ s := by
  intro s mem
  obtain ⟨text, left, rfl⟩ := List.mem_map.mp mem
  have full := full_of_mem_segmentsOf text (Segment.mem_undotted.mp left).1
  have escapes : Percent.Escapes (· ≠ '/') := ⟨by decide, by decide⟩
  have slash : ∀ c ∈ text, c.toNat < 0x80 → Percent.segmentSet true c = false → c ≠ '/' := by
    rintro c _ _ free rfl
    exact absurd free (by decide)
  exact ⟨mt (Percent.encode_eq_nil_iff rfl).mp full,
    fun inside => Percent.forall_mem_encode escapes slash '/' inside rfl⟩

theorem addressWith_eq {u : Url} (h : u.Written) {all : List Segment}
    (segments : u.segments? = some all) {version : String}
    (unbroken : ∀ c ∈ version.toList, Segment.isIgnored c = false) :
    addressWith u all version =
      { u with
        path := .segments (inner all version ++ [[]])
        query := none
        fragment := none } := by
  obtain ⟨same, eq, written⟩ := h.segments?
  obtain rfl : all = same := Option.some.inj (segments.symm.trans eq)
  have path : u.extended [[]] (segmentsOf all version ++ [[]]) = inner all version ++ [[]] := by
    rw [Url.extended_concat h.special, Segment.opened_foldl_append true
      (unbroken_of_mem_segmentsOf written unbroken) full_of_mem_segmentsOf]
    rfl
  rw [addressWith, path]
  rfl

/-- Whatever the version holds, an empty segment ends the path, and it can be read back. -/
theorem addressWith_written {u : Url} (h : u.Written) (all : List Segment) (version : String) :
    (addressWith u all version).Written ∧
      ∃ front, front ≠ [[]] ∧ (addressWith u all version).path = .segments (front ++ [[]]) := by
  -- The empty text at the end opens the path, whatever the texts before it have made of it.
  obtain ⟨front, hfront⟩ : ∃ front, front =
      Segment.opened ((segmentsOf all version).foldl (Segment.append false true) [[]]) := ⟨_, rfl⟩
  have path : (addressWith u all version).path = .segments (front ++ [[]]) := by
    rw [addressWith, Url.extended_concat h.special, hfront]
    rfl
  refine ⟨⟨h.special, h.authority, h.unguarded, _, path, by simp, ?_⟩, front, ?_, path⟩
  · intro s mem
    rcases List.mem_append.mp mem with mem | mem
    · refine Segment.written_foldl_append ?_ (segmentsOf all version) s
        (Segment.mem_of_mem_opened (hfront ▸ mem))
      intro t ht
      exact List.mem_singleton.mp ht ▸ Segment.written_nil
    · exact List.mem_singleton.mp mem ▸ Segment.written_nil
  · rw [hfront]
    exact Segment.opened_ne _

theorem addressWith_canonical {u : Url} (h : u.Written) {all : List Segment}
    (segments : u.segments? = some all) {version : String}
    (unbroken : ∀ c ∈ version.toList, Segment.isIgnored c = false) :
    (addressWith u all version).Canonical := by
  rw [addressWith_eq h segments unbroken]
  exact ⟨⟨_, rfl, inner_clean, Url.text_segments_concat _⟩, rfl, rfl⟩

/-- The base addresses of servers that are alike can differ only in the dot in front of the path. -/
theorem addressWith_alike {u v : Url} (alike : u.Alike v) {all all' : List Segment}
    (segments : u.segments? = some all) (segments' : v.segments? = some all')
    {version version' : String} (parts : partsOf version = partsOf version') :
    { addressWith u all version with guarded := v.guarded } = addressWith v all' version' := by
  have named : all.filter (!·.isEmpty) = all'.filter (!·.isEmpty) := by
    have same := alike.named
    rwa [Url.named, Url.named, segments, segments'] at same
  have texts : segmentsOf all version = segmentsOf all' version' := by
    rw [segmentsOf_eq, segmentsOf_eq, named, parts]
  have kind : u.kind = v.kind := by rw [Url.kind, Url.kind, alike.scheme]
  simp only [addressWith, Url.withSegments, Url.extended, texts, kind, alike.scheme, alike.authority]

/-- Whether there is a base address depends on the server alone, and the last step of making one never
fails. Each server on the web has one, with its own scheme and authority, and it is canonical. Servers
that are alike have, with versions of the same parts, the same base address if their scheme is well
known; for other schemes the dots in front of the paths can differ, if both have a base address. Hosts
are in ASCII throughout. -/
theorem canonical_base (server : String) :
    ((∃ e, ∀ version, baseUrl ⟨server, version⟩ = .error e) ∨
      ∀ version, ∃ b, baseUrl ⟨server, version⟩ = .ok b) ∧
    (∀ version, inSteps ⟨server, version⟩ ≠ .error .unwritable ∧
      baseUrl ⟨server, version⟩ =
        (inSteps ⟨server, version⟩).mapError fun stop => ⟨server, stop.cause⟩) ∧
    (∀ u, Url.parse (trimBlanks server) = .ok u →
      u.scheme = "http".toList ∨ u.scheme = "https".toList →
      ∀ version : String, (∀ c ∈ version.toList, Segment.isIgnored c = false) →
        ∃ b, baseUrl ⟨server, version⟩ = .ok b ∧ b.scheme = u.scheme ∧
          b.authority = u.authority ∧ b.Canonical) ∧
    (∀ server' u v, Url.parse (trimBlanks server) = .ok u →
      Url.parse (trimBlanks server') = .ok v → u.Alike v →
      ∀ version version', partsOf version = partsOf version' →
        (u.kind ≠ .other → ∃ b, baseUrl ⟨server, version⟩ = .ok b ∧
          baseUrl ⟨server', version'⟩ = .ok b) ∧
        ∀ b b', baseUrl ⟨server, version⟩ = .ok b → baseUrl ⟨server', version'⟩ = .ok b' →
          b.guarded = u.guarded ∧ b'.guarded = v.guarded ∧
            { b with guarded := v.guarded } = b') := by
  refine ⟨baseUrl_decided server, fun version => ⟨inSteps_ne_unwritable _, baseUrl_eq_inSteps _⟩,
    ?_, ?_⟩
  · intro u parsed web version unbroken
    have written := Url.written_of_parse parsed (Url.special_of_web web)
    obtain ⟨all, segments, _⟩ := written.segments?
    exact ⟨_, baseUrl_of_segments parsed segments version, rfl, rfl,
      addressWith_canonical written segments unbroken⟩
  · intro server' u v parsed parsed' alike version version' parts
    constructor
    · intro known
      have known' : v.kind ≠ .other := by rwa [Url.kind, ← alike.scheme]
      obtain ⟨unguarded, all, segments⟩ := Url.segments_of_parse parsed known
      obtain ⟨unguarded', all', segments'⟩ := Url.segments_of_parse parsed' known'
      have same := addressWith_alike alike segments segments' parts
      rw [unguarded', ← unguarded] at same
      refine ⟨_, baseUrl_of_segments parsed segments version, ?_⟩
      rw [baseUrl_of_segments parsed' segments' version', ← same]
      rfl
    · intro b b' base base'
      obtain ⟨w, all, here, segments, rfl⟩ := exists_of_baseUrl base
      obtain ⟨w', all', there, segments', rfl⟩ := exists_of_baseUrl base'
      obtain rfl : u = w := Except.ok.inj (parsed.symm.trans here)
      obtain rfl : v = w' := Except.ok.inj (parsed'.symm.trans there)
      exact ⟨rfl, rfl, addressWith_alike alike segments segments' parts⟩

set_option maxRecDepth 2000 in
theorem doubled_slashes_dropped :
    ∃ b, baseUrl ⟨"http://h//a?q", "v1//x"⟩ = .ok b ∧ b.Canonical ∧
      baseUrl ⟨" http://h/a/#f", "/v1/x"⟩ = .ok b := by
  have doubled : Url.parse (trimBlanks "http://h//a?q") = .ok
      { scheme := "http".toList, authority := some ⟨[], ['h'], none⟩, guarded := false
        path := .segments [[], ['a']], query := some ['q'], fragment := none } := rfl
  have single : Url.parse (trimBlanks " http://h/a/#f") = .ok
      { scheme := "http".toList, authority := some ⟨[], ['h'], none⟩, guarded := false
        path := .segments [['a'], []], query := none, fragment := some ['f'] } := rfl
  obtain ⟨_, _, web, alike⟩ := canonical_base "http://h//a?q"
  have unbroken : ∀ c ∈ "v1//x".toList, Segment.isIgnored c = false := by simp [Segment.isIgnored]
  obtain ⟨b, base, _, _, canonical⟩ := web _ doubled (Or.inl rfl) "v1//x" unbroken
  obtain ⟨b', base', again⟩ :=
    (alike _ _ _ doubled single ⟨rfl, rfl, rfl⟩ "v1//x" "/v1/x" (by decide)).1 (by decide)
  rw [base, Except.ok.injEq] at base'
  exact ⟨b, base, canonical, base' ▸ again⟩

set_option maxRecDepth 2000 in
/-- Empty segments leave their traces for other schemes: a path of one empty segment and no path at
all, and an empty segment behind a dot. -/
theorem empty_segments_not_dropped :
    (∃ u v b, Url.parse (trimBlanks "foo://") = .ok u ∧ Url.parse (trimBlanks "foo:///") = .ok v ∧
      u.Alike v ∧ baseUrl ⟨"foo://", ""⟩ = .error ⟨"foo://", none⟩ ∧
      baseUrl ⟨"foo:///", ""⟩ = .ok b) ∧
    ∃ u v b b', Url.parse (trimBlanks "foo:/.//a") = .ok u ∧
      Url.parse (trimBlanks "foo:/a") = .ok v ∧ u.Alike v ∧
      baseUrl ⟨"foo:/.//a", ""⟩ = .ok b ∧ baseUrl ⟨"foo:/a", ""⟩ = .ok b' ∧ b ≠ b' :=
  ⟨⟨⟨"foo".toList, some ⟨[], [], none⟩, false, .segments [], none, none⟩,
      ⟨"foo".toList, some ⟨[], [], none⟩, false, .segments [[]], none, none⟩, _, rfl, rfl,
      ⟨rfl, rfl, rfl⟩, rfl, rfl⟩,
    ⟨"foo".toList, none, true, .segments [[], ['a']], none, none⟩,
    ⟨"foo".toList, none, false, .segments [['a']], none, none⟩,
    ⟨"foo".toList, none, true, .segments [['a'], []], none, none⟩,
    ⟨"foo".toList, none, false, .segments [['a'], []], none, none⟩, rfl, rfl, ⟨rfl, rfl, rfl⟩, rfl,
    rfl, by decide⟩

end Configuration

end RackInventory
