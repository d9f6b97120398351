import RackInventory.Console.Command
import RackInventory.Console.Page
import RackInventory.View.Details

/-!
# Carrying out commands

A command asks the server for what it shows, one request after the other, and ends with a text or a
failure. A failure says what could not be done, from the outermost context inwards, and what it is
due to. A failed command shows nothing, and a diagram is written to a file only when it has been
received completely.
-/

namespace RackInventory

inductive Cause where
  | configuration (e : ConfigurationError)
  | client (e : CallError)
deriving DecidableEq

def Cause.messages : Cause → List String
  | .configuration e => e.message :: e.causes
  | .client e => e.message :: e.causes

structure Failure where
  contexts : List String
  cause : Option Cause
deriving DecidableEq

namespace Failure

/-- The failure to do something, due to an error of the client. -/
def ofClient (context : String) (e : CallError) : Failure := ⟨[context], some (.client e)⟩

def messages (f : Failure) : List String :=
  f.contexts ++ match f.cause with | some c => c.messages | none => []

/-- A message below others, with its later lines indented. -/
def indented (first later : String) (message : String) : String :=
  first ++ String.intercalate ("\n" ++ later) ((Form.split '\n' message.toList).map String.ofList)

/-- A number, right-aligned in five columns. -/
def numeral (n : Nat) : String :=
  let s := toString n
  String.ofList (List.replicate (5 - s.length) ' ') ++ s

/-- The messages for the terminal. -/
def report (f : Failure) : String :=
  match f.messages with
  | [] => "Error: \n"
  | [m] => "Error: " ++ m ++ "\n"
  | [m, cause] => "Error: " ++ m ++ "\n\nCaused by:\n" ++ indented "    " "    " cause ++ "\n"
  | m :: causes =>
    "Error: " ++ m ++ "\n\nCaused by:\n" ++
      String.join (causes.zipIdx.map fun (c, i) => indented (numeral i ++ ": ") "       " c ++ "\n")

end Failure

/-- A call on behalf of a command. -/
def Call.within {α : Type} (c : Call CallError α) (context : String) : Call Failure α :=
  c.mapError (Failure.ofClient context)

/-- A value that must be there. -/
def Call.ofOption {α : Type} (a : Option α) (message : String) : Call Failure α :=
  match a with
  | some a => pure a
  | none => throw ⟨[message], none⟩

namespace Command

/-- The infrastructures whose names a search text leaves. -/
def chosen (all : List Infrastructure) (query : String) : List Infrastructure :=
  let names := matchingNames (all.map (·.name)) query
  all.filter fun i => names.contains i.name

def viewOf (i : Infrastructure) (a : EquipmentArguments) : ViewState :=
  (ViewState.initial ⟨0, i⟩).run a.gestures

def typeIn (i : Infrastructure) (typeId : String) : Option EquipmentType :=
  (i.items.find? (·.typeId = typeId)).map (·.type)

def execute (client : Client) : Command → Call Failure String
  | .datacenters => do
    return Page.ofDatacenters (← client.datacenters.within "Failed to fetch datacenters")
  | .infrastructures query => do
    let all ← client.infrastructures.within "Failed to fetch infrastructures"
    return Page.ofInfrastructures (chosen all (query.getD ""))
  | .rooms place query => do
    let d ← (client.datacenter place).within ("Failed to fetch datacenter " ++ place)
    return Page.ofRooms d.name (d.roomEntries (query.getD ""))
  | .room place name query => do
    let d ← (client.datacenter place).within ("Failed to fetch datacenter " ++ place)
    let r ← Call.ofOption (d.rooms.find? (·.name = name))
      ("Room " ++ name ++ " not found in datacenter " ++ place)
    let all ← client.infrastructures.within "Failed to fetch infrastructures"
    return Page.ofRacks r.name (r.rackEntries all (query.getD ""))
  | .infrastructure a => do
    let i ← (client.infrastructure a.name).within ("Failed to fetch infrastructure " ++ a.name)
    return Page.ofView (viewOf i a)
  | .equipmentType owner typeId => do
    let i ← (client.infrastructure owner).within ("Failed to fetch infrastructure " ++ owner)
    let t ← Call.ofOption (typeIn i typeId) ("No equipment of type " ++ typeId ++ " in " ++ owner)
    return Details.text t
  | .draw kind name output => do
    let d ← (client.diagram kind name).within ("Failed to draw " ++ name)
    match output with
    | some path =>
      Call.save path d.bytes fun e => ⟨["Failed to write " ++ path, e.message], none⟩
      return "wrote " ++ path ++ " (" ++ toString d.bytes.length ++ " bytes, " ++ d.mediaType ++ ")\n"
    | none => return String.ofList (Utf8.decodeLossy d.bytes)

end Command

end RackInventory
