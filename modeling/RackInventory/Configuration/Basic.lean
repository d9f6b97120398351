import RackInventory.Shape.OfText
import RackInventory.Text.Blank
import RackInventory.Yaml.Basic

/-!
# Which server to ask

A configuration names the server and the version of its interface. It is written as a JSON record or
a YAML mapping with two fields, each of which may also be written in small letters; the version may
be left out. Settings from elsewhere replace a part: a blank server is no setting, a blank version is
one.
-/

namespace RackInventory

structure Configuration where
  server : String
  version : String
deriving DecidableEq, Repr

namespace Configuration

def initial : Configuration := ⟨"http://localhost:5000", ""⟩

def shape : Shape Configuration :=
  .map
    (.record "RuntimeConfig" <|
      .cons "API_SERVER" ["api_server"] .string none <|
      .cons "API_VERSION" ["api_version"] .string (some "") .nil)
    (fun (server, version, ()) => { server, version })
    (fun c => (c.server, c.version, ()))
    fun _ => rfl

def overridden (c : Configuration) (server version : Option String) : Configuration where
  server := ((server.filter fun s => !isBlankText s)).getD c.server
  version := version.getD c.version

/-- The fields of a mapping that have been read. -/
structure Filled where
  server : Option String
  version : Option String

/-- Reads one member of a mapping. A field is read once, and its value must be a text. -/
def readMember (document : Yaml) (p : Filled) (member : Yaml × Yaml) : Option Filled := do
  let name ← document.text? member.1
  if name = "API_SERVER" ∨ name = "api_server" then
    if p.server.isSome then none else return { p with server := some (← document.text? member.2) }
  else if name = "API_VERSION" ∨ name = "api_version" then
    if p.version.isSome then none else return { p with version := some (← document.text? member.2) }
  else return p

def ofYaml? (document : Yaml) : Option Configuration :=
  match document with
  | .mapping _ members => do
    let p ← members.foldlM (readMember document) ⟨none, none⟩
    return ⟨← p.server, p.version.getD ""⟩
  | _ => none

end Configuration

end RackInventory
