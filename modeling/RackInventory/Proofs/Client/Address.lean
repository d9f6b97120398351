import RackInventory.Client.Basic
import RackInventory.Proofs.Simulation.Paths

/-!
# The addresses that a client asks

A client of a server on a host, with a version of plain segments, finds a collection below the
segments of the version. The name it asks for is the only part of the query.
-/

namespace RackInventory

/-- An authority as a server on the web has one: a host and a port, but no user. -/
structure Authority.Serves (a : Authority) : Prop where
  written : a.Written "http".toList
  nameless : a.user = []

def Authority.at (a : Authority) (path : List Segment) (query : Option (List Char)) : Url :=
  ⟨"http".toList, some a, false, .segments path, query, none⟩

def Authority.server (a : Authority) : String := "http://" ++ String.ofList a.hostPort

theorem Authority.toList_server (a : Authority) :
    a.server.toList = "http".toList ++ ':' :: '/' :: '/' :: a.hostPort := by
  have host : (String.ofList a.hostPort).toList = a.hostPort := String.toList_ofList
  rw [server, String.toList_append, host]
  rfl

theorem special_http : SchemeKind.ofScheme "http".toList = .special := by decide

namespace Authority.Serves

variable {a : Authority} (h : a.Serves)

include h

theorem visible {c : Char} (mem : c ∈ a.server.toList) : Url.isVisible c = true := by
  rw [toList_server, List.mem_append, List.mem_cons, List.mem_cons, List.mem_cons] at mem
  rcases mem with mem | rfl | rfl | rfl | mem
  · exact Url.visible_of_special special_http c mem
  · decide
  · decide
  · decide
  · exact (Url.ends_of_inAuthority (Url.inside_hostPort h.written c mem).1).1

theorem trimBlanks_server : trimBlanks a.server = a.server := by
  have full : ∀ c ∈ a.server.toList, isBlank c = false := by
    intro c mem
    have range := Url.isVisible_iff.mp (h.visible mem)
    rw [← Bool.not_eq_true]
    intro blank
    have apart := apart_of_isBlank blank
    omega
  rw [trimBlanks, trimBoth_of_none full, String.ofList_toList]

theorem parse_server : Url.parse a.server = .ok (a.at [[]] none) := by
  have scheme : Url.scheme? (Url.significant a.server.toList) =
      some ("http".toList, '/' :: '/' :: a.hostPort) := by
    rw [Url.significant_of_visible fun c mem => h.visible mem, toList_server]
    exact Url.scheme?_special special_http _
  have inside : ∀ c ∈ a.hostPort, Url.endsAuthority "http".toList c = false := by
    intro c mem
    obtain ⟨_, separator, ends⟩ := Url.ends_of_inAuthority (Url.inside_hostPort h.written c mem).1
    rw [Url.endsAuthority_special special_http, separator, ends]
    rfl
  have start : ('/' :: '/' :: a.hostPort).dropWhile (Url.isSeparator true) = a.hostPort := by
    obtain ⟨c, rest, eq⟩ := List.exists_cons_of_ne_nil (Url.hostPort_ne_nil h.written)
    have other := (Url.ends_of_inAuthority
      (Url.inside_hostPort h.written c (eq ▸ List.mem_cons_self)).1).2.1
    change a.hostPort.dropWhile _ = _
    rw [eq, List.dropWhile_cons_of_neg (by simp [other])]
  have unmarked := fun c mem => (Url.inside_hostPort h.written c mem).2
  have read := Url.readHostPort_hostPort h.written (by rw [special_http]; rfl)
  have stop : ∀ c ∈ ([] : List Char).head?, Url.endsAuthority "http".toList c = true := by
    intro c mem
    cases mem
  have whole := Url.readAuthority_append inside stop
  rw [List.append_nil] at whole
  rw [Url.parse_of_scheme? scheme special_http, start, whole, Url.readParts,
    Url.cutAtLastMark_unmarked unmarked]
  rw [h.nameless] at read
  change (if none = some [] ∧ _ then _ else (Url.readHostPort "http".toList [] a.hostPort).map _) = _
  rw [if_neg (by simp), read]
  rfl

end Authority.Serves

section Segments

variable {segments : List Segment} (safe : ∀ s ∈ segments, s.PathSafe)

include safe

theorem map_reencoded_safe : segments.map Segment.reencoded = segments :=
  Segment.map_reencoded_eq_self_iff.mpr fun s mem => (safe s mem).not_mem (by decide)

theorem segmentsOf_joined :
    Configuration.segmentsOf [[]] (String.ofList (joined segments)) = segments := by
  have full : segments.filter (!·.isEmpty) = segments :=
    List.filter_eq_self.mpr fun s mem => by simpa using (safe s mem).filled
  rw [Configuration.segmentsOf, String.toList_ofList]
  by_cases none : segments = []
  · subst none
    rfl
  · rw [split_joined (fun s mem => (safe s mem).not_mem (by decide)) none]
    exact full

theorem ne_of_safe : segments ≠ [[]] := by
  rintro rfl
  exact (safe [] List.mem_cons_self).filled rfl

/-- The segments of a version, put behind the address of a server and an empty segment behind them. -/
theorem extended_safe {u : Url} (special : u.kind = .special) :
    u.extended [[]] (segments ++ [[]]) = segments ++ [[]] := by
  rw [Url.extended_concat special,
    Segment.opened_foldl_append_written (fun s mem => (safe s mem).written)
      fun s mem => (safe s mem).filled,
    map_reencoded_safe safe]
  rfl

end Segments

/-- A resource stands in place of the empty segment at the end of the base address. -/
theorem Client.below_resource {client : Client} {front : List Segment}
    (special : client.base.kind = .special) (path : client.base.path = .segments (front ++ [[]]))
    (isOpen : front ≠ [[]]) {resource : String} (plain : Segment.PathSafe resource.toList) :
    client.below [resource] = client.base.withSegments (front ++ [resource.toList]) := by
  have added : client.base.extended (Segment.dropEmptyLast (front ++ [[]])) [resource.toList] =
      front ++ [resource.toList] := by
    rw [Url.extended, special]
    change Segment.append false true _ resource.toList = _
    rw [Segment.append_written plain.written, Segment.opened_dropEmptyLast isOpen,
      Segment.reencoded_of_unmarked (plain.not_mem (by decide))]
  rw [below, path]
  exact congrArg client.base.withSegments added

section Addresses

variable {a : Authority} {segments : List Segment} (safe : ∀ s ∈ segments, s.PathSafe)

include safe

/-- The base address has the segments of the version and one empty segment behind them. -/
theorem Authority.Serves.ofConfiguration (h : a.Serves) :
    Client.ofConfiguration ⟨a.server, String.ofList (joined segments)⟩ =
      .ok ⟨a.at (segments ++ [[]]) none⟩ := by
  have base : Configuration.baseUrl ⟨a.server, String.ofList (joined segments)⟩ =
      .ok (a.at (segments ++ [[]]) none) := by
    rw [Configuration.baseUrl, h.trimBlanks_server, h.parse_server]
    change Except.ok (Configuration.addressWith (a.at [[]] none) [[]] _) = _
    have special : (a.at [[]] none).kind = .special := special_http
    rw [Configuration.addressWith, segmentsOf_joined safe, extended_safe safe special]
    rfl
  rw [Client.ofConfiguration, base]
  rfl

theorem Authority.collectionUrl {resource : String} (plain : Segment.PathSafe resource.toList)
    (name : Option String) :
    Client.collectionUrl ⟨a.at (segments ++ [[]]) none⟩ resource name =
      a.at (segments ++ [resource.toList]) (name.map fun name => (Form.pair "name" name).toList) := by
  have special : (Client.mk (a.at (segments ++ [[]]) none)).base.kind = .special := special_http
  have below := Client.below_resource special rfl (ne_of_safe safe) plain
  cases name with
  | none => exact below
  | some name =>
    rw [Client.collectionUrl, below]
    rfl

end Addresses

end RackInventory
