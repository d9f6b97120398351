import RackInventory.Client.Basic
import RackInventory.Proofs.Configuration.CanonicalAddress

/-!
# The addresses of diagrams

The address of a diagram ends with the name of what it shows, encoded as a segment. Every character
of the name can be read back from it, but for tabs and line breaks: these are dropped before the name
is encoded. So the address tells two names apart exactly when they differ in more than tabs and line
breaks.

What a server makes of the address is not described here. Servers whose host is named beyond ASCII are
left out.
-/

namespace RackInventory

namespace Segment

def unbroken (text : List Char) : List Char := text.filter (!isIgnored ·)

theorem unbroken_append (s t : List Char) : unbroken (s ++ t) = unbroken s ++ unbroken t :=
  List.filter_append ..

theorem unbroken_eq_self_iff {text : List Char} :
    unbroken text = text ↔ ∀ c ∈ text, isIgnored c = false := by
  rw [unbroken, List.filter_eq_self]
  exact forall₂_congr fun c _ => by rw [Bool.not_eq_true']

def drawing (name : String) : Segment :=
  Percent.encode (Percent.segmentSet true) (unbroken (name ++ ".svg").toList)

theorem unbroken_file (name : String) :
    unbroken (name ++ ".svg").toList = unbroken name.toList ++ ".svg".toList := by
  have suffix : unbroken ".svg".toList = ".svg".toList := by decide
  rw [String.toList_append, unbroken_append, suffix]

theorem decode_drawing (name : String) :
    Percent.decode (drawing name) = Utf8.encode (unbroken (name ++ ".svg").toList) :=
  Percent.decode_encode (by decide) _

theorem not_dots_drawing (name : String) :
    (drawing name).isDot = false ∧ (drawing name).isDoubleDot = false := by
  have suffix : Percent.encode (Percent.segmentSet true) ".svg".toList = ".svg".toList := by decide
  have letter : 's' ∈ drawing name := by
    rw [drawing, unbroken_file, Percent.encode_append, suffix]
    exact List.mem_append_right _ (by decide)
  exact not_dots_of_mem letter (by decide)

theorem append_drawing (path : List Segment) (name : String) :
    append false true path (name ++ ".svg").toList = opened path ++ [drawing name] := by
  have long : 4 ≤ (name ++ ".svg").toList.length := by simp
  have plain : (name ++ ".svg").toList ≠ ['.'] ∧ (name ++ ".svg").toList ≠ ['.', '.'] := by
    constructor
    · intro eq
      rw [eq] at long
      exact absurd long (by decide)
    · intro eq
      rw [eq] at long
      exact absurd long (by decide)
  obtain ⟨named, staying⟩ := not_dots_drawing name
  exact append_shown true plain rfl named staying

theorem drawing_inj {name other : String} :
    drawing name = drawing other ↔ unbroken name.toList = unbroken other.toList := by
  have whole : unbroken (name ++ ".svg").toList = unbroken (other ++ ".svg").toList ↔
      unbroken name.toList = unbroken other.toList := by
    rw [unbroken_file, unbroken_file, List.append_left_inj]
  rw [← whole]
  constructor
  · intro same
    have bytes := congrArg Percent.decode same
    rw [decode_drawing, decode_drawing] at bytes
    exact Utf8.encode_inj.mp bytes
  · exact congrArg _

end Segment

theorem DiagramSubject.entity_inj {kind kind' : DiagramSubject} :
    kind.entity.toList = kind'.entity.toList ↔ kind = kind' := by
  cases kind <;> cases kind' <;> decide

namespace Client

structure OnWeb (client : Client) : Prop where
  scheme : client.base.scheme = "http".toList ∨ client.base.scheme = "https".toList
  authority : client.base.authority.isSome = true
  path : ∃ all, client.base.path = .segments all

theorem OnWeb.isWeb {client : Client} (h : client.OnWeb) : client.base.isWeb = true := by
  rw [Url.isWeb, h.authority, Bool.and_true]
  rcases h.scheme with eq | eq <;> rw [eq] <;> decide

/-- The base address of a client is made from the segments of its server. -/
theorem base_of_configuration {c : Configuration} {client : Client}
    (made : ofConfiguration c = .ok client) :
    ∃ u all, Url.parse (trimBlanks c.server) = .ok u ∧ u.segments? = some all ∧
      client.base = Configuration.addressWith u all c.version := by
  cases base : c.baseUrl with
  | error e =>
    rw [ofConfiguration, base] at made
    cases made
  | ok b =>
    rw [ofConfiguration, base] at made
    cases made
    exact Configuration.exists_of_baseUrl base

/-- Every client that is made for a scheme of the web has a server there. -/
theorem onWeb_of_configuration {c : Configuration} {client : Client}
    (made : ofConfiguration c = .ok client)
    (web : client.base.scheme = "http".toList ∨ client.base.scheme = "https".toList) :
    client.OnWeb := by
  obtain ⟨u, all, parsed, _, base⟩ := base_of_configuration made
  have same : client.base.kind = u.kind := by rw [base]; rfl
  have special : u.kind = .special := same ▸ Url.special_of_web web
  obtain ⟨a, authority, _⟩ := (Url.written_of_parse parsed special).authority
  refine ⟨web, ?_, ?_⟩
  · rw [base]
    change u.authority.isSome = true
    rw [authority]
    rfl
  · rw [base]
    exact ⟨_, rfl⟩

/-- What is below the base address is on the same server. -/
theorem isWeb_below (client : Client) (segments : List String) :
    (client.below segments).isWeb = client.base.isWeb := by
  unfold below
  split <;> rfl

/-- A diagram is asked for in one request. -/
theorem diagram_eq {client : Client} (web : client.base.isWeb = true) (kind : DiagramSubject)
    (name : String) :
    client.diagram kind name = .judged ⟨.post, client.diagramUrl kind name, some agent⟩
      (judgeDiagram (kind.entity ++ " diagram " ++ name)) :=
  if_pos ((isWeb_below client _).trans web)

/-- A diagram has an address below the base address. -/
theorem diagramUrl_eq {client : Client} (special : client.base.kind = .special) {all : List Segment}
    (path : client.base.path = .segments all) (kind : DiagramSubject) (name : String) :
    client.diagramUrl kind name = client.base.withSegments
      (Segment.opened (Segment.dropEmptyLast all) ++
        ["draw".toList, kind.entity.toList, Segment.drawing name]) := by
  have draw : ∀ path, Segment.append false true path "draw".toList =
      Segment.opened path ++ ["draw".toList] := fun path =>
    Segment.append_shown true (by decide) (by decide) (by decide) (by decide)
  have entity : ∀ path, Segment.append false true path kind.entity.toList =
      Segment.opened path ++ [kind.entity.toList] := by
    intro path
    cases kind <;> exact Segment.append_shown true (by decide) (by decide) (by decide) (by decide)
  have filled : kind.entity.toList ≠ [] := by cases kind <;> decide
  rw [diagramUrl, below, path]
  change client.base.withSegments (client.base.extended (Segment.dropEmptyLast all)
    ["draw".toList, kind.entity.toList, (name ++ ".svg").toList]) = _
  rw [Url.extended, special]
  change client.base.withSegments (Segment.append false true (Segment.append false true
    (Segment.append false true _ "draw".toList) kind.entity.toList) (name ++ ".svg").toList) = _
  rw [draw, entity, Segment.opened_concat (by decide), Segment.append_drawing,
    Segment.opened_concat filled]
  simp

/-- A diagram is asked for at an address whose last segment is read back as the name with its suffix,
without tabs and line breaks. So it is read back as the name exactly when the name holds none, and
two diagrams have one address exactly when they show things of one kind whose names agree but for
these. The client is one of a server with a host in ASCII. -/
theorem diagram_addressed {c : Configuration} {client : Client}
    (made : ofConfiguration c = .ok client)
    (web : client.base.scheme = "http".toList ∨ client.base.scheme = "https".toList)
    (kind : DiagramSubject) (name : String) :
    client.diagram kind name = .judged ⟨.post, client.diagramUrl kind name, some agent⟩
      (judgeDiagram (kind.entity ++ " diagram " ++ name)) ∧
    (∃ front last, (client.diagramUrl kind name).segments? = some (front ++ [last]) ∧
      Percent.decode last = Utf8.encode (Segment.unbroken (name ++ ".svg").toList) ∧
      (Percent.decode last = Utf8.ofString (name ++ ".svg") ↔
        ∀ ch ∈ name.toList, Segment.isIgnored ch = false)) ∧
    ∀ other kind', client.diagramUrl kind name = client.diagramUrl kind' other ↔
      kind = kind' ∧ Segment.unbroken name.toList = Segment.unbroken other.toList := by
  have based := onWeb_of_configuration made web
  obtain ⟨all, path⟩ := based.path
  have address := diagramUrl_eq (Url.special_of_web web) path
  refine ⟨diagram_eq based.isWeb kind name, ?_, ?_⟩
  · refine ⟨Segment.opened (Segment.dropEmptyLast all) ++ ["draw".toList, kind.entity.toList],
      Segment.drawing name, ?_, Segment.decode_drawing name, ?_⟩
    · rw [address, List.append_assoc]
      cases Segment.opened (Segment.dropEmptyLast all) <;> rfl
    · rw [Segment.decode_drawing, Utf8.ofString, Utf8.encode_inj, Segment.unbroken_file,
        String.toList_append, List.append_left_inj, Segment.unbroken_eq_self_iff]
  · intro other kind'
    rw [address, address, ← Segment.drawing_inj, ← DiagramSubject.entity_inj]
    constructor
    · intro same
      have paths := List.append_cancel_left (UrlPath.segments.inj (congrArg Url.path same))
      simpa only [List.cons.injEq, and_true, true_and] using paths
    · rintro ⟨entity, file⟩
      rw [entity, file]

set_option maxRecDepth 2000 in
/-- Separators and percent signs in a name are read back. -/
theorem separators_addressed :
    ∃ client, ofConfiguration ⟨"http://h", ""⟩ = .ok client ∧
      (∃ front last, (client.diagramUrl .room "a/b%2F").segments? = some (front ++ [last]) ∧
        Percent.decode last = Utf8.ofString ("a/b%2F" ++ ".svg")) ∧
      client.diagramUrl .room "a/b%2F" ≠ client.diagramUrl .room "a/b/" := by
  have made : ofConfiguration ⟨"http://h", ""⟩ = .ok
      ⟨⟨"http".toList, some ⟨[], ['h'], none⟩, false, .segments [[]], none, none⟩⟩ := rfl
  obtain ⟨_, ⟨front, last, segments, _, whole⟩, apart⟩ :=
    diagram_addressed made (Or.inl rfl) .room "a/b%2F"
  exact ⟨_, made, ⟨front, last, segments, whole.mpr (Segment.unbroken_eq_self_iff.mp (by decide))⟩,
    fun same => absurd ((apart _ _).mp same).2 (by decide)⟩

set_option maxRecDepth 2000 in
/-- A tab in a name is lost: the diagrams of two names are asked for at one address, whose last
segment is read back as the other name. -/
theorem tab_not_addressed :
    ∃ client, ofConfiguration ⟨"http://h", ""⟩ = .ok client ∧
      client.diagramUrl .room "a\tb" = client.diagramUrl .room "ab" ∧
      (client.diagramUrl .room "a\tb").segments? =
        some ["draw".toList, "room".toList, "ab.svg".toList] ∧
      Percent.decode "ab.svg".toList ≠ Utf8.ofString ("a\tb" ++ ".svg") :=
  ⟨⟨⟨"http".toList, some ⟨[], ['h'], none⟩, false, .segments [[]], none, none⟩⟩, rfl, by decide,
    by decide, by decide⟩

end Client

end RackInventory
