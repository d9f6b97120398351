import RackInventory.Console.Program
import RackInventory.Http.Wire
import Std.Async.DNS
import Std.Async.TCP

/-!
# The program on a real machine

The outer layer: it reads the settings and the configuration file, carries out the requests and
writes of the session that the program describes, and prints the outcome.
-/

namespace RackInventory.Main

open Std.Async

def readEntry (path : String) : IO (List (String × Entry)) := do
  try
    return [(path, .file (← IO.FS.readBinFile path).toList)]
  catch
    | .noFileOrDirectory .. => return []
    | _ => return [(path, .directory)]

def environment : IO Environment := do
  let names := [Configuration.pathVariable, "RACKSWEB_API_SERVER", "RACKSWEB_API_VERSION"]
  names.filterMapM fun name => do return (← IO.getEnv name).map (name, ·)

def filesFor (env : Environment) (words : List String) : IO Files := do
  let settings ← readEntry ".env"
  match (env.withSettingsIn? (.ofList settings)).bind (Program.configurationPath? · words) with
  | some path => return .ofList (settings ++ (← readEntry path))
  | none => return .ofList settings

def receiveAll (socket : TCP.Socket.Client) : (fuel : Nat) → ByteArray → Async ByteArray
  | 0, received => return received
  | fuel + 1, received => do
    match ← socket.recv? 65536 with
    | some bytes => receiveAll socket fuel (received ++ bytes)
    | none => return received

/-- Sends a request over a connection of its own. -/
def exchange (r : Request) : Async Reply := do
  let some authority := r.url.authority | return none
  let port := (authority.port.orElse fun _ => defaultPort r.url.scheme).getD 80
  let host := String.ofList (authority.host.filter fun c => c != '[' && c != ']')
  let some address := (← DNS.getAddrInfo host (toString port))[0]? | return none
  let socket ← TCP.Socket.Client.mk
  socket.connect <| match address with
    | .v4 addr => .v4 ⟨addr, UInt16.ofNat port⟩
    | .v6 addr => .v6 ⟨addr, UInt16.ofNat port⟩
  socket.send ⟨(Wire.request r).toArray⟩
  return Wire.reply (← receiveAll socket (Nat.pow 2 20) .empty).toList

/-- The reply to a request. Encrypted connections cannot be made. -/
def ask (r : Request) : IO Reply := do
  if r.url.scheme != ['h', 't', 't', 'p'] then return none
  try (exchange r).block catch _ => return none

def save (path : String) (bytes : Bytes) : IO (Except FileError Unit) := do
  try
    IO.FS.writeBinFile path ⟨bytes.toArray⟩
    return .ok ()
  catch
    | .noFileOrDirectory .. => return .error .notFound
    | e => return .error (.other (toString e))

def carryOut {α : Type} : Session α → IO α
  | .result a => return a
  | .ask r next => do carryOut (next (← r.followed ask Request.hopLimit))
  | .save path bytes next => do carryOut (next (← save path bytes))

end RackInventory.Main

open RackInventory in
def main (words : List String) : IO UInt32 := do
  let env ← Main.environment
  let files ← Main.filesFor env words
  let outcome ← Main.carryOut (Program.run files env words)
  IO.print outcome.output
  match outcome with
  | .failed f => IO.eprint f.report
  | .refused _ => if outcome.exitCode != 0 then IO.eprint Program.usage
  | .stopped => IO.eprint "a setting holds a NUL character\n"
  | .done _ => pure ()
  return UInt32.ofNat outcome.exitCode
