import RackInventory.Configuration.Basic
import RackInventory.Text.Quoted
import RackInventory.Url.Parser

/-!
# The base address of the interface

The base address has the server's path without its empty segments, then the version's segments, and
ends with a slash. It has no query and no fragment. The segments of the server have been encoded when
the address was read and are encoded again here.

Servers whose host is named beyond ASCII have no base address here, as their names are not mapped.
-/

namespace RackInventory

structure InvalidServer where
  value : String
  cause : Option Url.Error
deriving DecidableEq

namespace InvalidServer

def reason (e : InvalidServer) : String :=
  match e.cause with
  | some cause => cause.message
  | none => "not a base URL"

def message (e : InvalidServer) : String := "invalid API url " ++ quoted e.value ++ ": " ++ e.reason

end InvalidServer

namespace Configuration

def segmentsOf (server : List Segment) (version : String) : List (List Char) :=
  (server ++ Form.split '/' version.toList).filter (!·.isEmpty)

/-- The address with the segments of `server` and of the version in place of its path. -/
def addressWith (u : Url) (server : List Segment) (version : String) : Url :=
  { u.withSegments (u.extended [[]] (segmentsOf server version ++ [[]])) with
    query := none, fragment := none }

/-- The base address of the interface. The host of the server is in ASCII, or there is none. -/
def baseUrl (c : Configuration) : Except InvalidServer Url :=
  match Url.parse (trimBlanks c.server) with
  | .error cause => .error ⟨c.server, some cause⟩
  | .ok u =>
    match u.segments? with
    | some server => .ok (addressWith u server c.version)
    | none => .error ⟨c.server, none⟩

end Configuration

end RackInventory
