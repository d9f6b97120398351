import RackInventory.Proofs.Client.Address
import RackInventory.Proofs.Http.Calls
import RackInventory.Proofs.Shape.Rereading

/-!
# Client and simulated server agree on names

A client of a simulated server finds an element of a collection by its name, whatever characters the
name has. The name is written into a query, read by the server, compared with the documents that the
server holds, and compared once more by the client with what it has read. Doubles need not survive
the way from a document to its text and back, so what the client has is the document with each number
read again.

Requests are taken to reach the server as they are sent.
-/

namespace RackInventory

open Json

/-- Whether the name of a value is the text under its name in an object. -/
def Shape.Names {α : Type} (s : Shape α) (nameOf : α → String) : Prop :=
  ∀ (ms : Members) (a : α), s.decode (.object ms) = .ok a →
    ms.lookup "name" = some (.string (nameOf a))

theorem lookup_of_ownMembers {name : String} {ms : Members} {m : String × Json}
    (own : Fields.ownMembers name [] ms = [m]) : ms.lookup name = some m.2 := by
  induction ms with
  | nil =>
    have none : ([] : Members) = [m] := own
    cases none
  | cons n ms ih =>
    cases named : Fields.isNamed name [] n.1 with
    | true =>
      rw [Fields.ownMembers_cons_of_named named] at own
      obtain rfl : n = m := (List.cons.inj own).1
      have same : n.1 = name := by simpa [Fields.isNamed] using named
      rw [List.lookup_cons, same, beq_self_eq_true]
    | false =>
      rw [Fields.ownMembers_cons_of_foreign named] at own
      have other : (name == n.1) = false := by
        rw [beq_eq_false_iff_ne]
        rintro rfl
        simp [Fields.isNamed] at named
      rw [List.lookup_cons, other]
      exact ih own

/-- A record whose first field is its name. -/
theorem names_of_record {α β σ : Type} {title : String} {rest : Fields β σ} {f : String × β → α}
    {g : α → String × β} {law : ∀ a, f (g a) = a} {nameOf : α → String}
    (name : ∀ p, nameOf (f p) = p.1) :
    (Shape.map (.record title (.required "name" .string rest)) f g law).Names nameOf := by
  intro ms a read
  obtain ⟨⟨n, b⟩, inner, ⟨⟩⟩ := bind_eq_ok_iff.mp read
  rw [name]
  rcases (Shape.decode_object_eq_ok_iff.mp inner).1 with ⟨_, ⟨⟩⟩ | ⟨m, own, text⟩
  rw [lookup_of_ownMembers own]
  cases value : m.2 with
  | string s => rw [value] at text; exact congrArg _ (congrArg _ (Except.ok.inj text))
  | _ => rw [value] at text; cases text

theorem names_infrastructure : Infrastructure.shape.Names (·.name) := names_of_record fun _ => rfl

theorem names_datacenter : Datacenter.shape.Names (·.name) := names_of_record fun _ => rfl

namespace SimulatedServer

theorem nameFilter_pair (name : Option String) :
    nameFilter (name.map (Form.pair "name")) = .ok name := by
  cases name with
  | none => rfl
  | some name =>
    rw [nameFilter, Option.map_some, Option.getD_some, Form.pairs_pair]
    rfl

theorem toReply_jsonResponse (j : Json) : (jsonResponse j).toReply = some (jsonResponse j) := by
  have header : Response.headerValue? "application/json" = some ("application/json", []) := by decide
  rw [Response.toReply, jsonResponse]
  simp only [header]
  rfl

/-- The server answers a request for a collection with the documents of the name. -/
theorem answer_collection {s : SimulatedServer} (free : s.forced = none) {segments : List Segment}
    (safe : ∀ t ∈ segments, t.PathSafe) (version : s.version = String.ofList (joined segments))
    (c : Collection) (name : Option String) :
    s.answer ⟨"GET", resourcePath s.version c.name, name.map (Form.pair "name")⟩ =
      jsonResponse (.array (named (s.holdings.documents c) name)) := by
  have route := Route.ofPath?_collection safe c
  rw [← version] at route
  rw [answer, route]
  change s.unlessForced (fromHoldings s.holdings _ (.collection c)) = _
  rw [unlessForced, free, fromHoldings, nameFilter_pair]

end SimulatedServer

section Elements

variable {α : Type} {shape : Shape α} {nameOf : α → String}

/-- Whether the documents of a collection are objects that stand for values. -/
def Shape.Serves (shape : Shape α) (documents : List Json) : Prop :=
  ∀ d ∈ documents, d.IsDocument ∧ (∃ ms, d = .object ms) ∧ ∃ a, shape.decode d = .ok a

/-- Documents that stand for values do so when their numbers are read again. -/
theorem Shape.Serves.reread {documents : List Json} (serves : shape.Serves documents) :
    ∃ items, List.Forall₂ (fun d a => shape.decode d.reread = .ok a) documents items := by
  induction documents with
  | nil => exact ⟨[], .nil⟩
  | cons d documents ih =>
    obtain ⟨document, -, a, read⟩ := serves d List.mem_cons_self
    obtain ⟨b, again⟩ := shape.decode_reread document read
    obtain ⟨items, more⟩ := ih fun e mem => serves e (List.mem_cons_of_mem d mem)
    exact ⟨b :: items, .cons again more⟩

theorem lookup_rereadMembers (name : String) (ms : Members) :
    (rereadMembers ms).lookup name = (ms.lookup name).map Json.reread := by
  induction ms with
  | nil => rfl
  | cons m ms ih =>
    rw [rereadMembers, List.lookup_cons, List.lookup_cons, ih]
    cases name == m.1 <;> rfl

/-- The name of a value is the one that its document has. -/
theorem member?_name (names : shape.Names nameOf) {ms : Members} {a : α}
    (read : shape.decode (Json.object ms).reread = .ok a) :
    (Json.object ms).member? "name" = some (.string (nameOf a)) := by
  have again := names _ a read
  rw [lookup_rereadMembers] at again
  obtain ⟨v, value, text⟩ := Option.map_eq_some_iff.mp again
  rw [member?, value]
  cases v <;> first | exact congrArg some text | cases text

/-- The server keeps the documents of those values that the client keeps. -/
theorem forall₂_named (names : shape.Names nameOf) {documents : List Json} {items : List α}
    (serves : shape.Serves documents)
    (read : List.Forall₂ (fun d a => shape.decode d.reread = .ok a) documents items) (name : String) :
    List.Forall₂ (fun d a => shape.decode d.reread = .ok a)
      (documents.filter (SimulatedServer.isNamed name)) (items.filter (nameOf · = name)) := by
  induction read with
  | nil => exact .nil
  | @cons d a documents items here _ ih =>
    obtain ⟨-, ⟨ms, rfl⟩, -⟩ := serves _ List.mem_cons_self
    have more := ih fun e mem => serves e (List.mem_cons_of_mem _ mem)
    have same : SimulatedServer.isNamed name (.object ms) = decide (nameOf a = name) := by
      rw [SimulatedServer.isNamed, member?_name names here]
    by_cases named : nameOf a = name
    · rw [List.filter_cons_of_pos (by simpa [same] using named),
        List.filter_cons_of_pos (by simpa using named)]
      exact .cons here more
    · rw [List.filter_cons_of_neg (by simpa [same] using named),
        List.filter_cons_of_neg (by simpa using named)]
      exact more

theorem map_name_eq (names : shape.Names nameOf) {documents : List Json} {items : List α}
    (serves : shape.Serves documents)
    (read : List.Forall₂ (fun d a => shape.decode d.reread = .ok a) documents items) :
    documents.map (·.member? "name") = items.map fun a => some (.string (nameOf a)) := by
  induction read with
  | nil => rfl
  | @cons d a documents items here _ ih =>
    obtain ⟨-, ⟨ms, rfl⟩, -⟩ := serves _ List.mem_cons_self
    rw [List.map_cons, List.map_cons, member?_name names here,
      ih fun e mem => serves e (List.mem_cons_of_mem _ mem)]

end Elements

/-- What a call ends with, and what the server has received by then. -/
def Scenario.outcome {α : Type} (s : Scenario) (call : Call CallError α) :
    Except CallError α × List Received :=
  ((s.runSession call.run).1, (s.runSession call.run).2.received)

section Calls

variable {α : Type} {a : Authority} {segments : List Segment}

/-- What the server sees of a request for a collection. -/
theorem received?_collection {s : SimulatedServer} (host : s.host = String.ofList a.hostPort)
    (safe : ∀ t ∈ segments, t.PathSafe) (version : s.version = String.ofList (joined segments))
    (c : Collection) (name : Option String) :
    s.received? ⟨.get, a.at (segments ++ [c.name.toList])
        (name.map fun name => (Form.pair "name" name).toList), some Client.agent⟩ =
      some ⟨"GET", resourcePath s.version c.name, name.map (Form.pair "name")⟩ := by
  have reaches : Request.reaches ⟨.get, a.at (segments ++ [c.name.toList])
      (name.map fun name => (Form.pair "name" name).toList), some Client.agent⟩ s.host.toList = true := by
    rw [host, String.toList_ofList]
    simp [Request.reaches, Authority.at]
  have path : String.ofList (UrlPath.segments (segments ++ [c.name.toList])).text =
      resourcePath s.version c.name := by
    rw [version, resourcePath_eq safe,
      pathText_eq (List.append_ne_nil_of_right_ne_nil _ (List.cons_ne_nil _ _))]
  have query : (name.map fun name => (Form.pair "name" name).toList).map String.ofList =
      name.map (Form.pair "name") := by
    cases name with
    | none => rfl
    | some name => exact congrArg some String.ofList_toList
  rw [SimulatedServer.received?, if_pos reaches]
  change some (Received.mk "GET" (String.ofList (UrlPath.segments _).text) _) = _
  rw [path]
  exact congrArg (fun query => some (Received.mk "GET" _ query)) query

/-- A request for a collection is answered, and nothing else is sent. -/
theorem outcome_send (safe : ∀ s ∈ segments, s.PathSafe) {version : String}
    (plain : trimBoth (· = '/') version.toList = joined segments) (holdings : Holdings)
    (c : Collection) (name : Option String) (judge : Reply → Except CallError α) :
    (Scenario.fresh (String.ofList a.hostPort) version holdings).outcome
        (Client.send .get (a.at (segments ++ [c.name.toList])
          (name.map fun name => (Form.pair "name" name).toList)) judge) =
      (judge (some (SimulatedServer.jsonResponse
          (.array (SimulatedServer.named (holdings.documents c) name)))),
        [⟨"GET", (Scenario.fresh (String.ofList a.hostPort) version holdings).pathOf c.name,
          name.map (Form.pair "name")⟩]) := by
  obtain ⟨s, hs⟩ : ∃ s, s = SimulatedServer.fresh (String.ofList a.hostPort) version holdings :=
    ⟨_, rfl⟩
  have host : s.host = String.ofList a.hostPort := hs ▸ rfl
  have trimmed : s.version = String.ofList (joined segments) := by
    rw [hs, SimulatedServer.fresh, plain]
  have held : s.holdings = holdings := hs ▸ rfl
  have free : s.forced = none := hs ▸ rfl
  have unasked : s.received = [] := hs ▸ rfl
  have seen := received?_collection host safe trimmed c name
  have answer := SimulatedServer.answer_collection free safe trimmed c name
  have served : s.serve ⟨.get, a.at (segments ++ [c.name.toList])
      (name.map fun name => (Form.pair "name" name).toList), some Client.agent⟩ =
      (some (SimulatedServer.jsonResponse (.array (SimulatedServer.named (holdings.documents c) name))),
        { s with received := [⟨"GET", resourcePath s.version c.name, name.map (Form.pair "name")⟩] }) := by
    rw [SimulatedServer.serve, seen]
    change (Response.toReply _, { s with received := s.received ++ _ }) = _
    rw [answer, SimulatedServer.toReply_jsonResponse, held, unasked]
    rfl
  have fresh : Scenario.fresh (String.ofList a.hostPort) version holdings = ⟨s, []⟩ := hs ▸ rfl
  have reached := World.follow_of_stays (w := SimulatedServer.world) served rfl
  rw [fresh]
  change (judge (SimulatedServer.world.follow s _).1, (SimulatedServer.world.follow s _).2.received) = _
  rw [reached]
  rfl

/-- The client has what the documents of an answer stand for. -/
theorem judgeList_documents {shape : Shape α} (shallow : shape.height < 127) {documents : List Json}
    (known : ∀ d ∈ documents, d.IsDocument) {items : List α}
    (read : List.Forall₂ (fun d a => shape.decode d.reread = .ok a) documents items)
    (resource : String) :
    Client.judgeList resource shape (some (SimulatedServer.jsonResponse (.array documents))) =
      .ok items := by
  have parsed := Shape.parse_list shallow known read
  change ((Shape.list shape).parse (Utf8.ofString (Json.array documents).render)).mapError _ = _
  rw [parsed]
  rfl

theorem judgeNamed_documents {shape : Shape α} (shallow : shape.height < 127) {documents : List Json}
    (known : ∀ d ∈ documents, d.IsDocument) {items : List α}
    (read : List.Forall₂ (fun d a => shape.decode d.reread = .ok a) documents items)
    (resource kind : String) (nameOf : α → String) (name : String) :
    Client.judgeNamed resource kind shape nameOf name
        (some (SimulatedServer.jsonResponse (.array documents))) =
      match items.find? (nameOf · = name) with
      | some a => .ok a
      | none => .error (.notFound kind name) := by
  rw [Client.judgeNamed, judgeList_documents shallow known read]
  rfl

end Calls

/-- Whether a client has the elements of a collection of a server, in the order of their documents
and by their names. -/
structure Agreement {α : Type} (s : Scenario) (c : Collection) (kind : String) (shape : Shape α)
    (nameOf : α → String) (find : String → Call CallError α) (list : Call CallError (List α))
    (items : List α) : Prop where
  /-- The elements are what the documents stand for when each number is read again. -/
  read : (s.server.holdings.documents c).mapM (fun d => shape.decode d.reread) = .ok items
  /-- Where no number changes when it is read again, they are what the documents stand for. -/
  same : (∀ d ∈ s.server.holdings.documents c, d.reread = d) →
    (s.server.holdings.documents c).mapM shape.decode = .ok items
  /-- Their names are those of the documents. -/
  names : (s.server.holdings.documents c).map (·.member? "name") =
    items.map fun a => some (.string (nameOf a))
  /-- One request is sent for all, and all are there. -/
  listed : s.outcome list = (.ok items, [⟨"GET", s.pathOf c.name, none⟩])
  /-- One request is sent for a name, whose query is read as that name, and the first element with
  the name is there, if there is one. -/
  found : ∀ name, ∃ query, Form.pairs query = [("name", name)] ∧
    s.outcome (find name) =
      (match items.find? (nameOf · = name) with
        | some a => .ok a
        | none => .error (.notFound kind name),
      [⟨"GET", s.pathOf c.name, some query⟩])

def localHost (port : Nat) : String := "127.0.0.1:" ++ toString port

theorem exists_authority {port : Nat} (bound : port < 65536) (unusual : port ≠ 80) :
    ∃ a : Authority, a.Serves ∧ localHost port = String.ofList a.hostPort := by
  have usual : defaultPort "http".toList = some 80 := by decide
  refine ⟨⟨[], Host.ipv4Text 2130706433, some port⟩, ⟨⟨.inl rfl, Host.written_ipv4Text _, ?_⟩, rfl⟩, ?_⟩
  · rintro _ ⟨⟩
    rw [usual]
    exact ⟨Nat.le_of_lt_succ bound, fun same => unusual (Option.some.inj same).symm⟩
  · have address : Host.ipv4Text 2130706433 ++ [':'] = "127.0.0.1:".toList := by decide
    have digits : (toString port).toList = Nat.toDigits 10 port := Nat.toList_repr
    have whole (s : List Char) : (String.ofList s).toList = s := String.toList_ofList
    apply String.toList_inj.mp
    rw [whole, localHost, String.toList_append, ← address, digits, List.append_assoc]
    rfl

theorem safe_name (c : Collection) : Segment.PathSafe c.name.toList := by
  cases c <;> exact .of_all (by decide) (by decide) (by decide) (by decide)

theorem agreement {α : Type} {a : Authority} {segments : List Segment}
    (safe : ∀ s ∈ segments, s.PathSafe) {version : String}
    (plain : trimBoth (· = '/') version.toList = joined segments) (holdings : Holdings)
    (c : Collection) (kind : String) {shape : Shape α} {nameOf : α → String}
    (names : shape.Names nameOf) (shallow : shape.height < 127)
    (serves : shape.Serves (holdings.documents c)) :
    ∃ items, Agreement (.fresh (String.ofList a.hostPort) version holdings) c kind shape nameOf
      (Client.find ⟨a.at (segments ++ [[]]) none⟩ c.name kind shape nameOf)
      (Client.list ⟨a.at (segments ++ [[]]) none⟩ c.name shape) items := by
  obtain ⟨items, read⟩ := serves.reread
  have known := fun d mem => (serves d mem).1
  have resource := safe_name c
  have unchanged (all : ∀ d ∈ holdings.documents c, d.reread = d) :
      (holdings.documents c).mapM shape.decode = .ok items := by
    have again : List.Forall₂ (fun d a => shape.decode d = .ok a)
        ((holdings.documents c).map Json.reread) items := List.forall₂_map_left_iff.mpr read
    rw [(List.map_congr_left all).trans (List.map_id _)] at again
    exact mapM_eq_ok_iff.mpr again
  refine ⟨items, ⟨mapM_eq_ok_iff.mpr read, unchanged, map_name_eq names serves read, ?_, fun name => ?_⟩⟩
  · have url := Authority.collectionUrl (a := a) safe resource none
    rw [Client.list, url]
    exact (outcome_send safe plain holdings c none _).trans (by
      rw [SimulatedServer.named, judgeList_documents shallow known read]
      rfl)
  · have url := Authority.collectionUrl (a := a) safe resource (some name)
    have kept := forall₂_named names serves read name
    have part : ∀ d ∈ (holdings.documents c).filter (SimulatedServer.isNamed name), d.IsDocument :=
      fun d mem => known d (List.mem_of_mem_filter mem)
    have again : (items.filter (nameOf · = name)).find? (nameOf · = name) =
        items.find? (nameOf · = name) := by
      simp [List.find?_filter]
    refine ⟨Form.pair "name" name, Form.pairs_pair "name" name, ?_⟩
    rw [Client.find, url]
    exact (outcome_send safe plain holdings c (some name) _).trans (by
      rw [SimulatedServer.named, judgeNamed_documents shallow part kept, again]
      rfl)

/-- The configuration of a server is one that a client can be made of. -/
theorem exists_client {port : Nat} (bound : port < 65536) (unusual : port ≠ 80) {version : String}
    {segments : List Segment} (plain : IsVersion version segments) (holdings : Holdings) :
    ∃ a : Authority, localHost port = String.ofList a.hostPort ∧
      Client.ofConfiguration (Scenario.fresh (localHost port) version holdings).configuration =
        .ok ⟨a.at (segments ++ [[]]) none⟩ := by
  obtain ⟨a, serves, host⟩ := exists_authority bound unusual
  refine ⟨a, host, ?_⟩
  rw [host]
  change Client.ofConfiguration ⟨a.server, String.ofList (trimBoth (· = '/') version.toList)⟩ = _
  rw [trimBoth_version plain]
  exact serves.ofConfiguration plain.1

/-- A client of a server finds what the server holds, by its names and all of it. -/
theorem client_agrees_with_server {port : Nat} (bound : port < 65536) (unusual : port ≠ 80)
    {version : String} {segments : List Segment} (plain : IsVersion version segments)
    (holdings : Holdings) :
    ∃ client,
      Client.ofConfiguration (Scenario.fresh (localHost port) version holdings).configuration =
        .ok client ∧
      (Infrastructure.shape.Serves holdings.infrastructures →
        ∃ items, Agreement (.fresh (localHost port) version holdings) .infrastructures
          "infrastructure" Infrastructure.shape (·.name) client.infrastructure
          client.infrastructures items) ∧
      (Datacenter.shape.Serves holdings.datacenters →
        ∃ items, Agreement (.fresh (localHost port) version holdings) .datacenters
          "datacenter" Datacenter.shape (·.name) client.datacenter client.datacenters items) := by
  obtain ⟨a, host, client⟩ := exists_client bound unusual plain holdings
  have trimmed := trimBoth_version plain
  refine ⟨_, client, ?_⟩
  rw [host]
  exact ⟨agreement plain.1 trimmed holdings .infrastructures "infrastructure"
      names_infrastructure (by decide),
    agreement plain.1 trimmed holdings .datacenters "datacenter" names_datacenter (by decide)⟩

/-- An object serves if its numbers are those of documents and it stands for a value. -/
theorem serves_cons {α : Type} {shape : Shape α} {ms : Members} {documents : List Json}
    (document : (Json.object ms).IsDocument) (read : (shape.decode (.object ms)).isOk = true)
    (rest : shape.Serves documents) : shape.Serves (.object ms :: documents) := by
  refine List.forall_mem_cons.mpr ⟨⟨document, ⟨ms, rfl⟩, ?_⟩, rest⟩
  cases value : shape.decode (.object ms) with
  | ok a => exact ⟨a, rfl⟩
  | error e => rw [value] at read; cases read

theorem serves_nil {α : Type} {shape : Shape α} : shape.Serves [] :=
  fun _ mem => absurd mem List.not_mem_nil

theorem sample_serves : Infrastructure.shape.Serves Holdings.sample.infrastructures ∧
    Datacenter.shape.Serves Holdings.sample.datacenters :=
  ⟨serves_cons (by decide +kernel) (by decide +kernel)
      (serves_cons (by decide +kernel) (by decide +kernel) serves_nil),
    serves_cons (by decide +kernel) (by decide +kernel) serves_nil⟩

/-- The sample, under a version between slashes. -/
theorem client_agrees_on_sample :
    5000 < 65536 ∧ 5000 ≠ 80 ∧ IsVersion "/v0.5.0/" ["v0.5.0".toList] ∧
      ∃ client infrastructures datacenters,
        Client.ofConfiguration (Scenario.fresh (localHost 5000) "/v0.5.0/" .sample).configuration =
          .ok client ∧
        Agreement (.fresh (localHost 5000) "/v0.5.0/" .sample) .infrastructures
          "infrastructure" Infrastructure.shape (·.name) client.infrastructure
          client.infrastructures infrastructures ∧
        Agreement (.fresh (localHost 5000) "/v0.5.0/" .sample) .datacenters
          "datacenter" Datacenter.shape (·.name) client.datacenter client.datacenters datacenters := by
  have version : IsVersion "/v0.5.0/" ["v0.5.0".toList] :=
    ⟨List.forall_mem_singleton.mpr (.of_all (by decide) (by decide) (by decide) (by decide)), 1, 1,
      by decide⟩
  obtain ⟨client, configured, infrastructures, datacenters⟩ :=
    @client_agrees_with_server 5000 (by decide) (by decide) _ _ version .sample
  obtain ⟨is, first⟩ := infrastructures sample_serves.1
  obtain ⟨ds, second⟩ := datacenters sample_serves.2
  exact ⟨by decide, by decide, version, client, is, ds, configured, first, second⟩

namespace Drift

def document (height : Float) : Json :=
  .object [
    ("layout", .array [.object [
      ("nodes", .array [.object [
        ("name", .string "n"),
        ("type", .object [("height", .number (.float height)), ("id", .string "t")])]]),
      ("rack", .string "r")]]),
    ("name", .string "lab")]

def infrastructure (height : Float) : Infrastructure :=
  { name := "lab"
    description := none
    tags := []
    layout := [{
      rack := "r"
      nodes := [{
        name := "n"
        type := {
          id := "t", model := none, height := some height, width := none, specs := none
          cpu := none, ram := none, storage := [], netifs := [], disks := [] }
        rack := none
        slot := none
        position := none
        tags := [] }]
      network := []
      storage := []
      misc := [] }] }

theorem infrastructure_inj {x y : Float} (same : infrastructure x = infrastructure y) : x = y := by
  simpa [infrastructure] using same

theorem decode_document (height : Float) :
    Infrastructure.shape.decode (document height) = .ok (infrastructure height) := rfl

def height : Float := 2.7773887107782697e+246

def otherHeight : Float := 2.77738871077827e+246

def held : Holdings := ⟨[], [document height], []⟩

theorem reread_document : (document height).reread = document otherHeight := by
  have changed : (Number.float height).reread = .float otherHeight := by decide +kernel
  rw [document, document, ← changed]
  rfl

theorem held_serves : Infrastructure.shape.Serves held.infrastructures :=
  serves_cons (by decide +kernel) rfl serves_nil

/-- What the client has is not what the document stands for. -/
theorem client_has_other_height :
    ∃ client own found,
      Client.ofConfiguration (Scenario.fresh (localHost 5000) "" held).configuration = .ok client ∧
      held.infrastructures.mapM Infrastructure.shape.decode = .ok [own] ∧ own.name = "lab" ∧
      ((Scenario.fresh (localHost 5000) "" held).outcome (client.infrastructure "lab")).1 =
        .ok found ∧
      found ≠ own := by
  have version : IsVersion "" [] := ⟨fun _ mem => absurd mem List.not_mem_nil, 0, 0, rfl⟩
  obtain ⟨a, host, client⟩ := @exists_client 5000 (by decide) (by decide) _ _ version held
  obtain ⟨items, agree⟩ := agreement (a := a) version.1 (trimBoth_version version) held
    .infrastructures "infrastructure" names_infrastructure (by decide) held_serves
  obtain ⟨b, read, rfl⟩ : ∃ b, Infrastructure.shape.decode (document height).reread = .ok b ∧
      items = [b] := by
    cases mapM_eq_ok_iff.mp agree.read with
    | cons read none =>
      cases none
      exact ⟨_, read, rfl⟩
  rw [reread_document, decode_document] at read
  cases read
  obtain ⟨query, -, found⟩ := agree.found "lab"
  rw [← host] at found
  refine ⟨_, infrastructure height, infrastructure otherHeight, client, rfl, rfl,
    congrArg Prod.fst found, fun same => ?_⟩
  exact absurd (infrastructure_inj same) (by decide +kernel)

end Drift

end RackInventory
