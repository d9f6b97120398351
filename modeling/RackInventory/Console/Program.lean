import RackInventory.Console.Execution
import RackInventory.Environment.Settings

/-!
# The program

The program reads its settings, its command line and its configuration, in this order, and carries
out the command. A refused command line asks the server nothing, and settings that cannot be made stop
the program before it looks at anything else.
-/

namespace RackInventory

inductive Outcome where
  | done (text : String)
  | failed (f : Failure)
  | refused (r : Refusal)
  | stopped
deriving DecidableEq

namespace Program

def name : String := "racksweb-console"

def version : String := "0.1.0"

def usage : String := String.intercalate "\n"
  ["Usage: " ++ name ++ " [--config <CONFIG_FILE>] <COMMAND>", "", "Commands:",
    "  datacenters", "  infrastructures [--query <QUERY>]", "  rooms <DATACENTER> [--query <QUERY>]",
    "  room <DATACENTER> <ROOM> [--query <QUERY>]",
    "  infrastructure <NAME> [--rack <RACK>]... [--type <TYPE>]... [--category <CATEGORY>]...",
    "      [--tag <TAG>]... [--name <TEXT>] [--descending] [--collapse <RACK>]...",
    "  equipment-type <INFRASTRUCTURE> <TYPE_ID>",
    "  draw <room|infrastructure> <NAME> [--output <FILE>]", "  help [COMMAND]", ""]

/-- The configuration file of a run, unless the command line is refused. -/
def configurationPath? (env : Environment) (words : List String) : Option String :=
  match CommandLine.parse words with
  | .ok line => some (line.config.getD ((env.lookup Configuration.pathVariable).getD
      Configuration.initialPath))
  | .error _ => none

def configuration (files : Files) (env : Environment) (path : Option String) :
    Except Failure Configuration :=
  match path with
  | some path =>
    match Configuration.ofFile files path with
    | .ok c => .ok (c.withEnvironment env)
    | .error e => .error ⟨["Failed to load " ++ path], some (.configuration e)⟩
  | none =>
    (Configuration.load files env).mapError fun e =>
      ⟨["Failed to load runtime configuration ($" ++ Configuration.pathVariable ++ ")"],
        some (.configuration e)⟩

def client (files : Files) (env : Environment) (path : Option String) : Except Failure Client := do
  let c ← configuration files env path
  (Client.ofConfiguration c).mapError (Failure.ofClient "Failed to create RacksDB client")

def carryOut (client : Client) (command : Command) : Session Outcome :=
  (command.execute client).run.bind fun
    | .ok text => .result (.done text)
    | .error f => .result (.failed f)

def run (files : Files) (env : Environment) (words : List String) : Session Outcome :=
  match env.withSettingsIn? files with
  | none => .result .stopped
  | some env =>
    match CommandLine.parse words with
    | .error r => .result (.refused r)
    | .ok line =>
      match client files env line.config with
      | .error f => .result (.failed f)
      | .ok client => carryOut client line.command

end Program

namespace Outcome

def output : Outcome → String
  | .done text => text
  | .refused .displayVersion => Program.name ++ " " ++ Program.version ++ "\n"
  | .refused .displayHelp => Program.usage
  | _ => ""

def report? : Outcome → Option String
  | .failed f => some f.report
  | _ => none

def exitCode : Outcome → Nat
  | .done _ => 0
  | .failed _ => 1
  | .refused r => if r = .displayHelp ∨ r = .displayVersion then 0 else 2
  | .stopped => 101

end Outcome

end RackInventory
