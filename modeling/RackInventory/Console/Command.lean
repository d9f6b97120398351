import RackInventory.Console.Arguments
import RackInventory.View.Basic

/-!
# Commands

A command line is an optional configuration file, the name of a command, and the words of the
command. Options of one level are not understood on the other.
-/

namespace RackInventory

/-- What is shown of an infrastructure. -/
structure EquipmentArguments where
  name : String
  racks : List String
  types : List String
  categories : List EquipmentCategory
  tags : List String
  nameQuery : Option String
  descending : Bool
  collapsed : List String
deriving DecidableEq

/-- What is added to the criteria. -/
def EquipmentArguments.selections (a : EquipmentArguments) : List Selection :=
  a.racks.map .rack ++ a.types.map .equipmentType ++ a.categories.map .category ++ a.tags.map .tag

/-- The gestures on a fresh view that show it, in the order of an interactive session. -/
def EquipmentArguments.gestures (a : EquipmentArguments) : List Gesture :=
  a.selections.map (.refine ∘ .add) ++ a.nameQuery.toList.map (.refine ∘ .seek) ++
    (if a.descending then [.reverseRacks] else []) ++ a.collapsed.map .flipRack

inductive Command where
  | datacenters
  | infrastructures (query : Option String)
  | rooms (datacenter : String) (query : Option String)
  | room (datacenter room : String) (query : Option String)
  | infrastructure (arguments : EquipmentArguments)
  | equipmentType (infrastructure typeId : String)
  | draw (kind : DiagramSubject) (name : String) (output : Option String)
deriving DecidableEq

structure CommandLine where
  config : Option String
  command : Command
deriving DecidableEq

namespace Command

def helpForm : OptionForm := ⟨.help, "help", some 'h'⟩

def queryForm : OptionForm := ⟨.query, "query", some 'q'⟩

/-- The words of a command by its name. -/
def grammar? : String → Option Grammar
  | "datacenters" => some ⟨[helpForm], []⟩
  | "infrastructures" => some ⟨[helpForm, queryForm], []⟩
  | "rooms" => some ⟨[helpForm, queryForm], [.datacenter]⟩
  | "room" => some ⟨[helpForm, queryForm], [.datacenter, .room]⟩
  | "infrastructure" =>
    some ⟨[helpForm, ⟨.rack, "rack", none⟩, ⟨.type, "type", none⟩, ⟨.category, "category", none⟩,
      ⟨.tag, "tag", none⟩, ⟨.name, "name", none⟩, ⟨.descending, "descending", none⟩,
      ⟨.collapse, "collapse", none⟩], [.infrastructure]⟩
  | "equipment-type" => some ⟨[helpForm], [.infrastructure, .typeId]⟩
  | "draw" => some ⟨[helpForm, ⟨.output, "output", some 'o'⟩], [.kind, .item]⟩
  | _ => none

def ofReading (name : String) (r : Reading) : Command :=
  let word (a : Argument) : String := (r.value? a).getD ""
  match name with
  | "infrastructures" => .infrastructures (r.value? .query)
  | "rooms" => .rooms (word .datacenter) (r.value? .query)
  | "room" => .room (word .datacenter) (word .room) (r.value? .query)
  | "infrastructure" =>
    .infrastructure
      { name := word .infrastructure
        racks := r.values .rack
        types := r.values .type
        categories := (r.values .category).filterMap fun c => (EquipmentCategory.ofText c).toOption
        tags := r.values .tag
        nameQuery := r.value? .name
        descending := r.has .descending
        collapsed := r.values .collapse }
  | "equipment-type" => .equipmentType (word .infrastructure) (word .typeId)
  | "draw" =>
    .draw (if word .kind = "room" then .room else .infrastructure) (word .item) (r.value? .output)
  | _ => .datacenters

end Command

namespace CommandLine

/-- The options in front of the name of a command. -/
def grammar : Grammar :=
  ⟨[⟨.config, "config", none⟩, Command.helpForm, ⟨.version, "version", some 'V'⟩], []⟩

def isCommand (w : String) : Bool := w = "help" || (Command.grammar? w).isSome

def readHelp : List String → Refusal
  | [] => .displayHelp
  | [w] => if isCommand w then .displayHelp else .invalidSubcommand
  | _ => .invalidSubcommand

def withoutCommand (r : Reading) : Refusal :=
  match r.settle with
  | .error e => e
  | .ok r => if r.taken.isEmpty then .displayHelpInstead else .missingSubcommand

/-- Reads the words in front of the name of a command, and then the command. -/
def read (r : Reading) : List String → Except Refusal CommandLine
  | [] => .error (withoutCommand r)
  | w :: rest =>
    if isCommand w && !r.isWaiting then
      match Command.grammar? w with
      | none => .error (readHelp rest)
      | some g => do
        let command ← g.readAll rest
        let r ← r.settle
        return ⟨r.value? .config, .ofReading w command⟩
    else if w = "--" then
      match rest with
      | [] => .error (withoutCommand r)
      | next :: _ => .error (if isCommand next then .unknownArgument else .invalidSubcommand)
    else
      match grammar.readOption? r w with
      | some step => do read (← step) rest
      | none => if r.isWaiting then read (r.giveValue w) rest else .error .invalidSubcommand

def parse (words : List String) : Except Refusal CommandLine := read (.start grammar) words

end CommandLine

end RackInventory
