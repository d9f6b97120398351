import RackInventory.Configuration.Basic
import RackInventory.Http.Session
import RackInventory.Json.Printer
import RackInventory.Simulation.Holdings
import RackInventory.Simulation.PathPattern
import RackInventory.Simulation.Received
import RackInventory.Text.Blank

/-!
# A simulated server

The server answers from its holdings and keeps every request it receives, in order, whatever the
answer. Its collections and drawings are found below its version; a forced status replaces their
answers, those to a wrong method included. The configuration is outside the version and never fails.
Without a version, a path that leads nowhere counts as one below the version. The version is a pattern
of paths; a drawing cannot be made where it has parameters.
-/

namespace RackInventory

abbrev Status := { code : Nat // 100 ≤ code ∧ code < 1000 }

def Status.ofNat? (code : Nat) : Option Status :=
  if h : 100 ≤ code ∧ code < 1000 then some ⟨code, h⟩ else none

def resourcePath (version resource : String) : String :=
  if version.isEmpty then "/" ++ resource else "/" ++ version ++ "/" ++ resource

/-- What a path leads to. The parts of a drawing's path have names: those of the version's parameters,
then the entity and the file. -/
inductive Route where
  | configuration
  | collection (c : Collection)
  | drawing (version : List (List Char × List Char)) (entity file : List Char)
deriving DecidableEq

namespace Route

def below? (version : List (List Char × List Char)) : List (List Char) → Option Route
  | [name] => (Collection.all.find? fun c => name = c.name.toList).map .collection
  | [draw, entity, file] =>
    if draw = "draw".toList ∧ !entity.isEmpty ∧ !file.isEmpty then some (.drawing version entity file)
    else none
  | _ => none

/-- What a path leads to. Paths are compared as they are written. -/
def ofPath? (version path : String) : Option Route :=
  if path = "/config.json" then some .configuration
  else do
    let pattern ← PathPattern.ofString? version
    match Form.split '/' path.toList with
    | [] :: segments =>
      let (parameters, rest) ← pattern.match? segments
      below? parameters rest
    | _ => none

/-- Whether a method is allowed. Where reading is allowed, so is asking for the head. -/
def allows : Route → (method : String) → Bool
  | .drawing .., method => method = "POST"
  | _, method => method = "GET" || method = "HEAD"

end Route

structure SimulatedServer where
  host : String
  version : String
  holdings : Holdings
  forced : Option Status
  received : List Received

namespace SimulatedServer

/-- A server on a host. Slashes around the version do not count. -/
def fresh (host version : String) (holdings : Holdings) : SimulatedServer :=
  ⟨host, String.ofList (trimBoth (· = '/') version.toList), holdings, none, []⟩

def address (s : SimulatedServer) : String := "http://" ++ s.host

/-- Where a client finds the server. -/
def configuration (s : SimulatedServer) : Configuration := ⟨s.address, s.version⟩

def jsonResponse (j : Json) : Response :=
  { status := 200, mediaType := some "application/json", body := some (Utf8.ofString j.render) }

def refusal (message : String) : Response :=
  { status := 400
    mediaType := some "text/plain; charset=utf-8"
    body := some (Utf8.ofString message) }

/-- The name that a query asks for, if any. It may not ask for two. -/
def nameFilter (query : Option String) : Except String (Option String) :=
  match (Form.pairs (query.getD "")).filter (·.1 = "name") with
  | [] => .ok none
  | [(_, name)] => .ok (some name)
  | _ => .error "Failed to deserialize query string: duplicate field \x60name\x60"

def isNamed (name : String) (document : Json) : Bool :=
  match document.member? "name" with
  | some (.string s) => s = name
  | _ => false

def named (documents : List Json) : Option String → List Json
  | some name => documents.filter (isNamed name)
  | none => documents

def hasRoom (name : String) (datacenter : Json) : Bool :=
  match datacenter.member? "rooms" with
  | some (.array rooms) => rooms.any (isNamed name)
  | _ => false

def isKnown (h : Holdings) (entity name : String) : Bool :=
  if entity = "room" then h.datacenters.any (hasRoom name)
  else if entity = "infrastructure" then h.infrastructures.any (isNamed name)
  else false

def drawing (entity name : String) : String :=
  "<svg xmlns=\"http://www.w3.org/2000/svg\"><title>" ++ entity ++ " " ++ name ++ "</title></svg>"

def partTexts (parts : List (List Char × List Char)) : Except String (List String) :=
  parts.mapM fun (name, s) =>
    match Utf8.toString? (Percent.decode s) with
    | some t => .ok t
    | none => .error ("Invalid URL: Invalid UTF-8 in \x60" ++ String.ofList name ++ "\x60")

/-- The answer where a path has another number of named parts than a drawing. -/
def miscounted (count : Nat) : Response :=
  { refusal ("Wrong number of path arguments for \x60Path\x60. Expected 2 but got " ++ toString count) with
    status := 500 }

def drawnName? (file : String) : Option String :=
  (['g', 'v', 's', '.'].isPrefixOf? file.toList.reverse).map fun rest => String.ofList rest.reverse

def drawn (h : Holdings) (entity file : String) : Response :=
  match drawnName? file with
  | some name =>
    if isKnown h entity name then
      { status := 200
        mediaType := some "image/svg+xml"
        body := some (Utf8.ofString (drawing entity name)) }
    else .ofStatus 404
  | none => .ofStatus 404

def fromHoldings (h : Holdings) (query : Option String) : Route → Response
  | .collection c =>
    match nameFilter query with
    | .ok name => jsonResponse (.array (named (h.documents c) name))
    | .error message => refusal message
  | .drawing version entity file =>
    let parts := version ++ [("entity".toList, entity), ("file".toList, file)]
    match partTexts parts with
    | .ok [entity, file] => drawn h entity file
    | .ok _ => miscounted parts.length
    | .error message => refusal message
  | .configuration => .ofStatus 404

/-- The answer that a forced status leads to. Announcements of a later response are none. -/
def forcedResponse (status : Status) : Response :=
  .ofStatus (if Response.isFinal status.val then status.val else 500)

def unlessForced (s : SimulatedServer) (r : Response) : Response :=
  match s.forced with
  | some status => forcedResponse status
  | none => r

def headOf (r : Response) : Response := { r with body := some [] }

/-- The answer at a route when its method is right. -/
def atRoute (s : SimulatedServer) (query : Option String) : Route → Response
  | .configuration => jsonResponse (Configuration.shape.encode s.configuration)
  | route => s.unlessForced (fromHoldings s.holdings query route)

def answer (s : SimulatedServer) (r : Received) : Response :=
  match Route.ofPath? s.version r.path with
  | none => if s.version.isEmpty then s.unlessForced (.ofStatus 404) else .ofStatus 404
  | some route =>
    if route.allows r.method then
      if r.method = "HEAD" then headOf (s.atRoute r.query route) else s.atRoute r.query route
    else if route = .configuration then .ofStatus 405
    else s.unlessForced (.ofStatus 405)

def receive (s : SimulatedServer) (r : Received) : Response × SimulatedServer :=
  (s.answer r, { s with received := s.received ++ [r] })

/-- Answers a request line. One that is not well-formed is not kept. -/
def receiveLine (s : SimulatedServer) (method target : String) : Response × SimulatedServer :=
  match Received.ofLine? method target with
  | some r => s.receive r
  | none => (.ofStatus 400, s)

/-- A request of a client, as the server sees it. -/
def received? (s : SimulatedServer) (r : Request) : Option Received :=
  if r.reaches s.host.toList then
    some ⟨r.method.name, String.ofList r.url.path.text, r.url.query.map String.ofList⟩
  else none

def serve (s : SimulatedServer) (r : Request) : Reply × SimulatedServer :=
  match s.received? r with
  | some r => ((s.answer r).toReply, (s.receive r).2)
  | none => (none, s)

/-- Sessions can ask the server; files cannot be written. -/
def world : World SimulatedServer := ⟨serve, fun s _ _ => (.error .notFound, s)⟩

end SimulatedServer

end RackInventory
