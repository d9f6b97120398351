import RackInventory.Configuration.Address
import RackInventory.Proofs.Url.Blanks
import RackInventory.Proofs.Url.Extension

/-!
# The base address and the path of its server

The base address is meant to lead to the server that is configured, so its path should begin with
the server's own. The segments of the server have been encoded when the address was read, however,
and are encoded again when they are added. Without a version the base address therefore has the path
of the server exactly when no segment of it holds an escape, and a base address is its own base
address under the same condition.

Nothing is said of servers whose host is named beyond ASCII.
-/

namespace RackInventory

namespace Url

def named (u : Url) : List Segment := (u.segments?.getD []).filter (!·.isEmpty)

/-- The address with its segments encoded once more, and one empty segment at the end. -/
def rebased (u : Url) : Url :=
  { u with
    path := .segments (u.named.map Segment.reencoded ++ [[]])
    query := none
    fragment := none }

theorem segments?_of_path {u : Url} {all : List Segment} (path : u.path = .segments all)
    (some : all ≠ []) : u.segments? = .some all := by
  obtain ⟨first, more, rfl⟩ := List.exists_cons_of_ne_nil some
  rw [segments?, path]

theorem Written.segments? {u : Url} (h : u.Written) :
    ∃ all, u.segments? = some all ∧ ∀ s ∈ all, s.Written := by
  obtain ⟨all, path, present, written⟩ := h.path
  exact ⟨all, segments?_of_path path present, written⟩

theorem Written.named {u : Url} (h : u.Written) : ∀ s ∈ u.named, s.Written ∧ s ≠ [] := by
  obtain ⟨all, eq, written⟩ := h.segments?
  intro s mem
  rw [Url.named, eq, Option.getD_some, List.mem_filter] at mem
  exact ⟨written s mem.1, by simpa using mem.2⟩

theorem extended_named {u : Url} (h : u.Written) :
    u.extended [[]] (u.named ++ [[]]) = u.named.map Segment.reencoded ++ [[]] := by
  have written := fun s mem => (h.named s mem).1
  have full := fun s mem => (h.named s mem).2
  rw [extended_concat h.special, Segment.opened_foldl_append_written written full]
  rfl

theorem rebased_written {u : Url} (h : u.Written) : u.rebased.Written where
  special := h.special
  authority := h.authority
  unguarded := h.unguarded
  path := by
    refine ⟨_, rfl, by simp, ?_⟩
    intro s mem
    rcases List.mem_append.mp mem with mem | mem
    · obtain ⟨t, ht, rfl⟩ := List.mem_map.mp mem
      exact Segment.written_reencoded (h.named t ht).1
    · exact List.mem_singleton.mp mem ▸ Segment.written_nil

theorem named_rebased {u : Url} (h : u.Written) :
    u.rebased.named = u.named.map Segment.reencoded := by
  have full : ∀ s ∈ u.named.map Segment.reencoded, (!List.isEmpty s) = true := by
    intro s mem
    obtain ⟨t, ht, rfl⟩ := List.mem_map.mp mem
    have some := (h.named t ht).2
    simpa [Segment.reencoded_eq_nil_iff] using some
  have segments : u.rebased.segments? = some (u.named.map Segment.reencoded ++ [[]]) := by
    cases eq : u.named.map Segment.reencoded with
    | nil => simp [Url.segments?, rebased, eq]
    | cons first more => simp [Url.segments?, rebased, eq]
  rw [Url.named, segments, Option.getD_some, List.filter_append, List.filter_eq_self.mpr full]
  exact List.append_nil _

theorem marks_named {u : Url} {all : List Segment} (path : u.path = .segments all) :
    Segment.marks u.named = Segment.marks all := by
  have segments : u.segments?.getD [] = all := by
    cases all <;> simp [Url.segments?, path]
  rw [Url.named, segments, Segment.marks, List.flatten_filter_not_isEmpty]
  rfl

theorem Shortened.named {u v : Url} (h : Shortened u v) :
    u.named = v.named ∨ Segment.marks u.named < Segment.marks v.named := by
  rcases h.path with same | ⟨short, long, left, right, fewer⟩
  · left
    rw [Url.named, Url.named, Url.segments?, Url.segments?, same]
  · right
    rw [marks_named left, marks_named right]
    exact fewer

/-- A base address is its own base address exactly when no segment of it holds an escape. -/
theorem rebased_rebased_iff {u : Url} (h : u.Written) :
    u.rebased.rebased = u.rebased ↔ ∀ s ∈ u.rebased.named, '%' ∉ s := by
  rw [← Segment.map_reencoded_eq_self_iff]
  constructor
  · intro same
    have paths := UrlPath.segments.inj (congrArg Url.path same)
    rw [← named_rebased h] at paths
    exact List.append_cancel_right paths
  · intro same
    rw [rebased, same, named_rebased h]
    rfl

end Url

namespace Configuration

theorem baseUrl_of_error {server : String} {cause : Url.Error}
    (parsed : Url.parse (trimBlanks server) = .error cause) (version : String) :
    baseUrl ⟨server, version⟩ = .error ⟨server, some cause⟩ := by
  unfold baseUrl
  rw [parsed]

theorem baseUrl_of_no_segments {server : String} {u : Url}
    (parsed : Url.parse (trimBlanks server) = .ok u) (segments : u.segments? = none)
    (version : String) : baseUrl ⟨server, version⟩ = .error ⟨server, none⟩ := by
  unfold baseUrl
  rw [parsed]
  dsimp only
  rw [segments]

theorem baseUrl_of_segments {server : String} {u : Url} {all : List Segment}
    (parsed : Url.parse (trimBlanks server) = .ok u) (segments : u.segments? = some all)
    (version : String) : baseUrl ⟨server, version⟩ = .ok (addressWith u all version) := by
  unfold baseUrl
  rw [parsed]
  dsimp only
  rw [segments]

theorem segmentsOf_unversioned (server : List Segment) :
    segmentsOf server "" = server.filter (!·.isEmpty) := by
  change (server ++ [[]]).filter _ = _
  rw [List.filter_append]
  exact List.append_nil _

/-- Every server with a well-known scheme has a base address. -/
theorem baseUrl_unversioned {server : String} {u : Url}
    (parsed : Url.parse (trimBlanks server) = .ok u) (special : u.kind = .special) :
    baseUrl ⟨server, ""⟩ = .ok u.rebased := by
  have written := Url.written_of_parse parsed special
  obtain ⟨all, eq, _⟩ := written.segments?
  have named : all.filter (!·.isEmpty) = u.named := by rw [Url.named, eq, Option.getD_some]
  rw [baseUrl_of_segments parsed eq, addressWith, segmentsOf_unversioned, named,
    Url.extended_named written]
  rfl

/-- The base address of a server, with a host in ASCII, keeps the path of the server exactly when no
segment holds an escape. -/
theorem baseUrl_keeps_path_iff {server : String} {u : Url} (parsed : Url.parse server = .ok u)
    (web : u.scheme = "http".toList ∨ u.scheme = "https".toList) :
    ∃ b, baseUrl ⟨server, ""⟩ = .ok b ∧
      (b.named = u.named ↔ ∀ s ∈ u.named, '%' ∉ s) ∧
      (baseUrl ⟨b.text, ""⟩ = .ok b ↔ ∀ s ∈ b.named, '%' ∉ s) := by
  have special : u.kind = .special := by
    rcases web with eq | eq <;> rw [Url.kind, eq] <;> decide
  obtain ⟨t, trimmed, shortened⟩ := Url.parse_trimBlanks parsed special
  have known : t.kind = .special := by rw [Url.kind, shortened.scheme, ← Url.kind, special]
  have written := Url.written_of_parse trimmed known
  have again := Url.rebased_written written
  have named := Url.named_rebased written
  refine ⟨t.rebased, baseUrl_unversioned trimmed known, ?_, ?_⟩
  · rcases shortened.named with same | fewer
    · rw [named, same, Segment.map_reencoded_eq_self_iff]
    · have marks := Segment.marks_map_reencoded t.named
      constructor
      · intro kept
        rw [named] at kept
        rw [kept] at marks
        omega
      · intro unmarked
        have none := Segment.marks_eq_zero_iff.mpr unmarked
        omega
  · have read : Url.parse (trimBlanks t.rebased.text) = .ok t.rebased := by
      rw [Url.trimBlanks_text again rfl rfl, Url.parse_text again rfl rfl]
    rw [baseUrl_unversioned read known, Except.ok.injEq, Url.rebased_rebased_iff written]

set_option maxRecDepth 2000 in
theorem baseUrl_keeps_plain_path :
    ∃ b, baseUrl ⟨"http://h/api//v1?q", ""⟩ = .ok b ∧ b.named = ["api".toList, "v1".toList] ∧
      baseUrl ⟨b.text, ""⟩ = .ok b := by
  have server : Url.parse "http://h/api//v1?q" = .ok
      { scheme := "http".toList, authority := some ⟨[], ['h'], none⟩, guarded := false
        path := .segments ["api".toList, [], "v1".toList]
        query := some ['q'], fragment := none } := rfl
  obtain ⟨b, base, kept, again⟩ := baseUrl_keeps_path_iff server (Or.inl rfl)
  have same := kept.mpr (by decide)
  exact ⟨b, base, same, again.mpr (same ▸ by decide)⟩

set_option maxRecDepth 2000 in
/-- A blank in the path of the server is escaped once when the server is read, and again each time a
base address is made. -/
theorem baseUrl_escapes_again :
    ∃ u b c, Url.parse "http://h/a%20b" = .ok u ∧ u.named = ["a%20b".toList] ∧
      baseUrl ⟨"http://h/a%20b", ""⟩ = .ok b ∧ b.named = ["a%2520b".toList] ∧
      baseUrl ⟨b.text, ""⟩ = .ok c ∧ c.named = ["a%252520b".toList] :=
  ⟨⟨"http".toList, some ⟨[], ['h'], none⟩, false, .segments ["a%20b".toList], none, none⟩,
    ⟨"http".toList, some ⟨[], ['h'], none⟩, false, .segments ["a%2520b".toList, []], none, none⟩,
    ⟨"http".toList, some ⟨[], ['h'], none⟩, false, .segments ["a%252520b".toList, []], none, none⟩,
    rfl, rfl, rfl, rfl, rfl, rfl⟩

end Configuration

end RackInventory
