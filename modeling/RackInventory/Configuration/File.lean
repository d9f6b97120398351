import RackInventory.Configuration.Address
import RackInventory.Files
import RackInventory.Yaml.Document

/-!
# Where a configuration comes from

A configuration is read from a file, whose name tells whether it is YAML or JSON. A file that is
missing or blank stands for the initial configuration. The file is named on the command line or by an
environment variable, and the environment can replace what it says.
-/

namespace RackInventory

inductive ConfigurationError where
  | file (path : String) (cause : FileError)
  | json (cause : Json.ReadError)
  | yaml
  | server (cause : InvalidServer)
  | fetch
deriving DecidableEq

namespace ConfigurationError

def message : ConfigurationError → String
  | .file path cause => "cannot read config file " ++ path ++ ": " ++ cause.message
  | .json cause => "invalid JSON config: " ++ cause.message
  | .yaml => "invalid YAML config"
  | .server cause => cause.message
  | .fetch => "failed to fetch runtime configuration"

/-- What an error is due to, from the nearest cause on. -/
def causes : ConfigurationError → List String
  | .file _ cause => [cause.message]
  | .json cause => [cause.message]
  | .yaml => ["invalid document"]
  | .server _ => []
  | .fetch => ["request failed"]

end ConfigurationError

abbrev Environment := List (String × String)

namespace Configuration

/-- What follows the last dot of the last name of a path. A dot at the start of the name does not
count. -/
def suffix (path : String) : List Char :=
  let name := ((Form.split '/' path.toList).filter (!·.isEmpty)).getLast?.getD []
  let afterDot := (name.reverse.takeWhile (· ≠ '.')).reverse
  if afterDot.length + 1 < name.length then afterDot else []

def isYaml (path : String) : Bool := [['y', 'a', 'm', 'l'], ['y', 'm', 'l']].contains (suffix path)

def ofText (path text : String) : Except ConfigurationError Configuration :=
  if isBlankText text then .ok initial
  else if isYaml path then
    match (Yaml.parse? text).bind ofYaml? with
    | some c => .ok c
    | none => .error .yaml
  else (shape.parse (Utf8.ofString text)).mapError .json

def ofFile (files : Files) (path : String) : Except ConfigurationError Configuration :=
  match files.find? path with
  | none => .ok initial
  | some .directory => .error (.file path .isDirectory)
  | some (.file bytes) =>
    match Utf8.toString? bytes with
    | none => .error (.file path .notText)
    | some text => ofText path text

def pathVariable : String := "RACKSWEB_CONFIG"

/-- The file that is read when none is named. -/
def initialPath : String := "config.json"

def withEnvironment (c : Configuration) (env : Environment) : Configuration :=
  c.overridden (env.lookup "RACKSWEB_API_SERVER") (env.lookup "RACKSWEB_API_VERSION")

/-- The configuration in the file that the environment names, with the settings of the
environment. -/
def load (files : Files) (env : Environment) : Except ConfigurationError Configuration := do
  return (← ofFile files ((env.lookup pathVariable).getD initialPath)).withEnvironment env

end Configuration

end RackInventory
