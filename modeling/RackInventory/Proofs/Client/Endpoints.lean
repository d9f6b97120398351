import RackInventory.Proofs.Client.Address
import RackInventory.Proofs.Client.Diagrams
import RackInventory.Proofs.Url.Form

/-!
# A name stays in its place

Names come from a server or from a person, and can be any text. In the address of a diagram a name is
part of the last segment, and in the address of a collection it is the value in the query. Whatever
the name is, the address is on the server of the base address and in its place below it, and what is
written for the address is read as this address again.

Only servers on the web are considered, as requests go to no others, and only hosts in ASCII.
-/

namespace RackInventory

/-- Whether a call makes one request, whatever comes of the reply. -/
def Call.Asks {ε α : Type} (call : Call ε α) (r : Request) : Prop := ∃ judge, call = .judged r judge

/-- Whether an address has some segments in place of the empty one at the end of another address, on
the same server, and is what its own text stands for. -/
structure Url.Below (u base : Url) (more : List Segment) : Prop where
  scheme : u.scheme = base.scheme
  authority : u.authority = base.authority
  path : ∃ front, base.path = .segments (front ++ [[]]) ∧ u.path = .segments (front ++ more)
  fragment : u.fragment = none
  reread : Url.parse u.text = .ok u

theorem Url.Below.text {u base : Url} {first : Segment} {more : List Segment}
    (h : u.Below base (first :: more)) :
    u.path.text = base.path.text ++ first ++ more.flatMap ('/' :: ·) := by
  obtain ⟨front, path, here⟩ := h.path
  rw [path, here]
  simp [UrlPath.text]

namespace Segment

theorem written_drawing (name : String) : (drawing name).Written where
  kept := (kept_encode _).1
  whole := (kept_encode _).2
  named := (not_dots_drawing name).1
  staying := (not_dots_drawing name).2

theorem drawing_ne_nil (name : String) : drawing name ≠ [] := by
  have suffix : unbroken (name ++ ".svg").toList ≠ [] := by
    rw [unbroken_file]
    exact List.append_ne_nil_of_right_ne_nil _ (by decide)
  exact mt (Percent.encode_eq_nil_iff (segmentSet_mark true)).mp suffix

theorem Written.slash_not_mem {s : Segment} (h : s.Written) : '/' ∉ s :=
  fun mem => absurd (h.whole '/' mem) (by decide)

end Segment

theorem DiagramSubject.pathSafe_entity (kind : DiagramSubject) :
    Segment.PathSafe kind.entity.toList := by
  cases kind <;> exact .of_all (by decide) (by decide) (by decide) (by decide)

namespace Client

/-- The base address of a client on the web: some segments and an empty one, and no more. -/
structure Rooted (client : Client) (front : List Segment) : Prop where
  written : client.base.Written
  path : client.base.path = .segments (front ++ [[]])
  isOpen : front ≠ [[]]
  query : client.base.query = none
  fragment : client.base.fragment = none

theorem rooted_of_configuration {c : Configuration} {client : Client}
    (made : ofConfiguration c = .ok client)
    (web : client.base.scheme = "http".toList ∨ client.base.scheme = "https".toList) :
    ∃ front, client.Rooted front := by
  obtain ⟨u, all, parsed, _, base⟩ := base_of_configuration made
  have same : client.base.kind = u.kind := by rw [base]; rfl
  have special : u.kind = .special := same ▸ Url.special_of_web web
  obtain ⟨written, front, isOpen, path⟩ := Configuration.addressWith_written
    (Url.written_of_parse parsed special) all c.version
  rw [← base] at written path
  exact ⟨front, written, path, isOpen, by rw [base]; rfl, by rw [base]; rfl⟩

section Rooted

variable {client : Client} {front : List Segment} (h : client.Rooted front)

include h

/-- Written segments below the base address, and a query that needs no encoding. -/
theorem Rooted.below {more : List Segment} (some : more ≠ []) (written : ∀ s ∈ more, s.Written)
    {query : Option (List Char)} (kept : Url.KeptQuery query) :
    Url.Below { client.base.withSegments (front ++ more) with query } client.base more := by
  have all : ∀ s ∈ front ++ more, s.Written := by
    obtain ⟨path, eq, _, based⟩ := h.written.path
    obtain rfl := UrlPath.segments.inj (h.path.symm.trans eq)
    intro s mem
    rcases List.mem_append.mp mem with mem | mem
    · exact based s (List.mem_append_left _ mem)
    · exact written s mem
  refine ⟨rfl, rfl, ⟨front, h.path, rfl⟩, h.fragment, Url.parse_text_query ?_ kept h.fragment⟩
  exact ⟨h.written.special, h.written.authority, h.written.unguarded, _, rfl,
    List.append_ne_nil_of_right_ne_nil front some, all⟩

theorem Rooted.diagramUrl (kind : DiagramSubject) (name : String) :
    client.diagramUrl kind name = client.base.withSegments
      (front ++ ["draw".toList, kind.entity.toList, Segment.drawing name]) := by
  rw [diagramUrl_eq h.written.special h.path, Segment.opened_dropEmptyLast h.isOpen]

theorem Rooted.diagram_below (kind : DiagramSubject) (name : String) :
    (client.diagramUrl kind name).Below client.base
      ["draw".toList, kind.entity.toList, Segment.drawing name] := by
  have draw : Segment.PathSafe "draw".toList :=
    .of_all (by decide) (by decide) (by decide) (by decide)
  have written : ∀ s ∈ ["draw".toList, kind.entity.toList, Segment.drawing name],
      Segment.Written s := by
    intro s mem
    simp only [List.mem_cons, List.not_mem_nil, or_false] at mem
    rcases mem with rfl | rfl | rfl
    · exact draw.written
    · exact kind.pathSafe_entity.written
    · exact Segment.written_drawing name
  have below := h.below (List.cons_ne_nil _ _) written Url.KeptQuery.none
  rw [h.diagramUrl]
  rwa [← h.query] at below

theorem Rooted.collection_below {resource : String} (plain : Segment.PathSafe resource.toList)
    (name : String) :
    (client.collectionUrl resource (some name)).Below client.base [resource.toList] := by
  have named : client.collectionUrl resource (some name) =
      { client.base.withSegments (front ++ [resource.toList]) with
        query := some (Form.pair "name" name).toList } := by
    rw [collectionUrl, below_resource h.written.special h.path h.isOpen plain]
    rfl
  have written : ∀ s ∈ [resource.toList], Segment.Written s :=
    fun s mem => List.mem_singleton.mp mem ▸ plain.written
  rw [named]
  refine h.below (List.cons_ne_nil _ _) written ?_
  intro q given
  cases given
  exact Form.kept_pair "name" name

end Rooted

/-- A collection is asked for by name in one request. -/
theorem find_asks {client : Client} (web : client.base.isWeb = true) {α : Type}
    (resource kind : String) (item : Shape α) (nameOf : α → String) (name : String) :
    (client.find resource kind item nameOf name).Asks
      ⟨.get, client.collectionUrl resource (some name), some agent⟩ :=
  ⟨_, if_pos ((isWeb_below client _).trans web)⟩

/-- Any name is asked for below the base address of a client: a diagram at a path with one more
segment behind the kind of the diagram, which is neither empty nor dots and holds no slash, and an
element of a collection at the path of the collection, with the name as the only value of a query.
The base address always has segments, so these are never left out. The client is one of a server with a
host in ASCII. -/
theorem name_stays_below {c : Configuration} {client : Client}
    (made : ofConfiguration c = .ok client)
    (web : client.base.scheme = "http".toList ∨ client.base.scheme = "https".toList)
    (name : String) :
    (∃ path, client.base.path = .segments path) ∧
    (∀ kind : DiagramSubject, ∃ last : Segment,
      (client.diagram kind name).Asks ⟨.post, client.diagramUrl kind name, some agent⟩ ∧
      (client.diagramUrl kind name).Below client.base ["draw".toList, kind.entity.toList, last] ∧
      (client.diagramUrl kind name).query = none ∧
      (client.diagramUrl kind name).path.text =
        client.base.path.text ++ "draw/".toList ++ kind.entity.toList ++ '/' :: last ∧
      last ≠ [] ∧ '/' ∉ last ∧ last.isDot = false ∧ last.isDoubleDot = false) ∧
    (client.datacenter name).Asks
      ⟨.get, client.collectionUrl "datacenters" (some name), some agent⟩ ∧
    (client.infrastructure name).Asks
      ⟨.get, client.collectionUrl "infrastructures" (some name), some agent⟩ ∧
    ∀ resource ∈ ["datacenters", "infrastructures"],
      (client.collectionUrl resource (some name)).Below client.base [resource.toList] ∧
      (client.collectionUrl resource (some name)).path.text =
        client.base.path.text ++ resource.toList ∧
      ∃ q, client.collectionUrl resource (some name) =
          { client.collectionUrl resource none with query := some q } ∧
        Form.pairs (String.ofList q) = [("name", name)] := by
  obtain ⟨front, rooted⟩ := rooted_of_configuration made web
  have isWeb := (onWeb_of_configuration made web).isWeb
  refine ⟨⟨_, rooted.path⟩, ?_, find_asks isWeb .., find_asks isWeb .., ?_⟩
  · intro kind
    have below := rooted.diagram_below kind name
    refine ⟨Segment.drawing name, ⟨_, diagram_eq isWeb kind name⟩, below, ?_, ?_,
      Segment.drawing_ne_nil name, (Segment.written_drawing name).slash_not_mem,
      Segment.not_dots_drawing name⟩
    · rw [rooted.diagramUrl]
      exact rooted.query
    · rw [below.text]
      simp
  · intro resource mem
    have safe : ∀ r ∈ ["datacenters", "infrastructures"], Segment.PathSafe r.toList := by
      intro r mem
      simp only [List.mem_cons, List.not_mem_nil, or_false] at mem
      rcases mem with rfl | rfl <;>
        exact .of_all (by decide) (by decide) (by decide) (by decide)
    have below := rooted.collection_below (safe resource mem) name
    refine ⟨below, ?_, (Form.pair "name" name).toList, rfl, ?_⟩
    · rw [below.text]
      simp
    · rw [String.ofList_toList, Form.pairs_pair]

set_option maxRecDepth 2000 in
/-- Dots that would lead out of the base address do not. -/
theorem dots_stay_below :
    ∃ client, ofConfiguration ⟨"http://h/api", "v1"⟩ = .ok client ∧
      (∃ last : Segment,
        (client.diagramUrl .room "../..").path.text = "/api/v1/draw/room/".toList ++ last ∧
        '/' ∉ last ∧ last.isDoubleDot = false) ∧
      (client.collectionUrl "datacenters" (some "..?#")).path.text =
        "/api/v1/datacenters".toList := by
  have made : ofConfiguration ⟨"http://h/api", "v1"⟩ = .ok
      ⟨⟨"http".toList, some ⟨[], ['h'], none⟩, false,
        .segments ["api".toList, "v1".toList, []], none, none⟩⟩ := rfl
  obtain ⟨_, diagrams, _⟩ := name_stays_below made (Or.inl rfl) "../.."
  obtain ⟨last, _, _, _, path, _, slash, _, dots⟩ := diagrams .room
  obtain ⟨_, _, _, _, collections⟩ := name_stays_below made (Or.inl rfl) "..?#"
  obtain ⟨_, collection, _⟩ := collections "datacenters" (by decide)
  exact ⟨_, made, ⟨last, path, slash, dots⟩, collection⟩

end Client

end RackInventory
