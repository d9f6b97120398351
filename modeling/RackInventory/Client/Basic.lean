import RackInventory.Client.Error
import RackInventory.Http.Session
import RackInventory.Inventory.Datacenter
import RackInventory.Inventory.Infrastructure

/-!
# The client of the inventory

A client holds the base address. It asks for collections, for one named element of a collection, and
for diagrams. The reply, after redirections, alone decides the outcome: first whether the exchange
succeeded, then the status, then the body, then whether the named element is there.
-/

namespace RackInventory

structure Diagram where
  mediaType : String
  bytes : Bytes
deriving DecidableEq

inductive DiagramSubject where
  | room
  | infrastructure
deriving DecidableEq, Repr

def DiagramSubject.entity : DiagramSubject → String
  | .room => "room"
  | .infrastructure => "infrastructure"

structure Client where
  base : Url
deriving DecidableEq

namespace Client

/-- The name by which the client presents itself. -/
def agent : String := "racksweb/0.1.0"

def ofConfiguration (c : Configuration) : Except CallError Client :=
  (c.baseUrl.map Client.mk).mapError fun e => .configuration (.server e)

def below (c : Client) (segments : List String) : Url :=
  match c.base.path with
  | .segments path =>
    c.base.withSegments (c.base.extended (Segment.dropEmptyLast path) (segments.map String.toList))
  | .plain _ => c.base

def accepted (resource : String) : Reply → Except CallError Response
  | none => .error .exchange
  | some r =>
    if Response.isSuccess r.status then .ok r else .error (.status resource r.status)

def bodyOf (resource : String) (reply : Reply) : Except CallError (Response × Bytes) := do
  let r ← accepted resource reply
  match r.body with
  | some bytes => .ok (r, bytes)
  | none => .error .exchange

def judgeList {α : Type} (resource : String) (item : Shape α) (reply : Reply) :
    Except CallError (List α) := do
  let (_, bytes) ← bodyOf resource reply
  ((Shape.list item).parse bytes).mapError (.decode resource)

def judgeNamed {α : Type} (resource kind : String) (item : Shape α) (nameOf : α → String)
    (name : String) (reply : Reply) : Except CallError α := do
  let found ← judgeList resource item reply
  match found.find? (nameOf · = name) with
  | some a => .ok a
  | none => .error (.notFound kind name)

/-- The media type that diagrams have unless it is stated. -/
def usualMediaType : String := "image/svg+xml"

/-- A stated media type without its parameters. One that is not plain ASCII is ignored. -/
def mediaTypeOf (r : Response) : String :=
  match r.mediaType with
  | some stated =>
    if stated.toList.all fun c => c == '\t' || (0x20 ≤ c.toNat && c.toNat < 0x7F) then
      trimBlanks (String.ofList (stated.toList.takeWhile (· ≠ ';')))
    else usualMediaType
  | none => usualMediaType

def judgeDiagram (resource : String) (reply : Reply) : Except CallError Diagram := do
  let (r, bytes) ← bodyOf resource reply
  return ⟨mediaTypeOf r, bytes⟩

/-- Sends a request, if the address allows one. Its redirections are followed on the way. -/
def send {α : Type} (method : Method) (url : Url) (judge : Reply → Except CallError α) :
    Call CallError α :=
  if url.isWeb then .judged ⟨method, url, some agent⟩ judge else throw .exchange

/-- The address of a collection, or of the elements of a collection with a name. -/
def collectionUrl (c : Client) (resource : String) : Option String → Url
  | none => c.below [resource]
  | some name => (c.below [resource]).withPair "name" name

def list {α : Type} (c : Client) (resource : String) (item : Shape α) : Call CallError (List α) :=
  send .get (c.collectionUrl resource none) (judgeList resource item)

def find {α : Type} (c : Client) (resource kind : String) (item : Shape α) (nameOf : α → String)
    (name : String) : Call CallError α :=
  send .get (c.collectionUrl resource (some name)) (judgeNamed resource kind item nameOf name)

def datacenters (c : Client) : Call CallError (List Datacenter) :=
  c.list "datacenters" Datacenter.shape

def datacenter (c : Client) (name : String) : Call CallError Datacenter :=
  c.find "datacenters" "datacenter" Datacenter.shape (·.name) name

def infrastructures (c : Client) : Call CallError (List Infrastructure) :=
  c.list "infrastructures" Infrastructure.shape

def infrastructure (c : Client) (name : String) : Call CallError Infrastructure :=
  c.find "infrastructures" "infrastructure" Infrastructure.shape (·.name) name

def racks (c : Client) : Call CallError (List Rack) := c.list "racks" Rack.shape

def diagramUrl (c : Client) (kind : DiagramSubject) (name : String) : Url :=
  c.below ["draw", kind.entity, name ++ ".svg"]

def diagram (c : Client) (kind : DiagramSubject) (name : String) : Call CallError Diagram :=
  send .post (c.diagramUrl kind name) (judgeDiagram (kind.entity ++ " diagram " ++ name))

end Client

namespace Configuration

/-- The configuration that a reply holds. Only client and server errors count as failures. -/
def judge (reply : Reply) : Except ConfigurationError Configuration :=
  match reply with
  | none => .error .fetch
  | some r =>
    match r.body with
    | some bytes =>
      if Response.isFailure r.status then .error .fetch
      else (shape.parse bytes).mapError .json
    | none => .error .fetch

def fetch (address : String) : Call ConfigurationError Configuration :=
  match Url.parse address with
  | .ok url => if url.isWeb then .judged ⟨.get, url, none⟩ judge else throw .fetch
  | .error _ => throw .fetch

end Configuration

end RackInventory
