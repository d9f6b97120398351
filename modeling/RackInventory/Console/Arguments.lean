import RackInventory.Client.Basic
import RackInventory.Inventory.Category

/-!
# Words of a command line

A command takes options and a fixed number of words. An option is written with two dashes and its
name, or with one dash and its letter; a value follows as the next word, after an equals sign, or
right after the letter. After two dashes alone every word stands for itself. The words of an argument
are judged only when the next argument starts, so an unknown word is reported before a bad value in
front of it.
-/

namespace RackInventory

/-- Why a command line is not carried out. -/
inductive Refusal where
  | argumentConflict
  | displayHelp
  | displayHelpInstead
  | displayVersion
  | invalidSubcommand
  | invalidValue
  | missingArgument
  | missingSubcommand
  | tooManyValues
  | unknownArgument
  | valueValidation
deriving DecidableEq, Repr

/-- What a word of a command line is for. -/
inductive Argument where
  | config
  | help
  | version
  | query
  | rack
  | type
  | category
  | tag
  | name
  | descending
  | collapse
  | output
  | datacenter
  | room
  | infrastructure
  | typeId
  | kind
  | item
deriving DecidableEq, Repr

namespace Argument

def isRepeatable : Argument → Bool
  | .rack | .type | .category | .tag | .collapse => true
  | _ => false

def isFlag : Argument → Bool
  | .help | .version | .descending => true
  | _ => false

def fault? (a : Argument) (value : String) : Option Refusal :=
  match a with
  | .config | .output => if value.isEmpty then some .invalidValue else none
  | .category =>
    match EquipmentCategory.ofText value with
    | .ok _ => none
    | .error _ => some .valueValidation
  | .kind => if value = "room" ∨ value = "infrastructure" then none else some .invalidValue
  | _ => none

end Argument

structure OptionForm where
  argument : Argument
  long : String
  short : Option Char

/-- The options and the words that a command takes. -/
structure Grammar where
  options : List OptionForm
  words : List Argument

/-- What has been read of a command line: the arguments with their values, one that may still get a
value, and the words that are still expected. -/
structure Reading where
  taken : List (Argument × List String)
  pending : Option (Argument × List String)
  expected : List Argument

namespace Reading

def start (g : Grammar) : Reading := ⟨[], none, g.words⟩

def values (r : Reading) (a : Argument) : List String :=
  (r.taken.filter (·.1 = a)).flatMap (·.2)

def value? (r : Reading) (a : Argument) : Option String := (r.values a).head?

def has (r : Reading) (a : Argument) : Bool := r.taken.any (·.1 = a)

def take (r : Reading) (a : Argument) (values : List String) : Except Refusal Reading :=
  if a = .help then .error .displayHelp
  else if a = .version then .error .displayVersion
  else if values.isEmpty && !a.isFlag then .error .invalidValue
  else if r.has a && !a.isRepeatable then .error .argumentConflict
  else
    match values.findSome? a.fault? with
    | some fault => .error fault
    | none => .ok { r with taken := r.taken ++ [(a, values)] }

/-- Takes the argument that waited for more. -/
def settle (r : Reading) : Except Refusal Reading :=
  match r.pending with
  | some (a, values) => { r with pending := none }.take a values
  | none => .ok r

def isWaiting (r : Reading) : Bool := r.pending.any (·.2.isEmpty)

def begin (r : Reading) (a : Argument) (values : List String) : Except Refusal Reading := do
  return { ← r.settle with pending := some (a, values) }

/-- Takes a word as the value of the option that waits for one. -/
def giveValue (r : Reading) (w : String) : Reading :=
  { r with pending := r.pending.map fun (a, values) => (a, values ++ [w]) }

def takeWord (r : Reading) (w : String) : Except Refusal Reading :=
  match r.expected with
  | [] => .error .unknownArgument
  | a :: rest => do return { ← r.begin a [w] with expected := rest }

def takeOption (r : Reading) (o : OptionForm) (attached : Option String) : Except Refusal Reading :=
  if o.argument.isFlag then
    match attached with
    | some _ => .error .tooManyValues
    | none => do (← r.settle).take o.argument []
  else
    match attached with
    | some v => do (← r.settle).take o.argument [v]
    | none => r.begin o.argument []

end Reading

/-- A word with two dashes: the name, and what follows an equals sign. -/
def longForm? (w : String) : Option (String × Option String) :=
  match w.toList with
  | '-' :: '-' :: c :: rest =>
    let s := c :: rest
    some (String.ofList (s.takeWhile (· ≠ '=')),
      match s.dropWhile (· ≠ '=') with
      | _ :: value => some (String.ofList value)
      | [] => none)
  | _ => none

/-- A word with one dash: its letters. -/
def shortForm? (w : String) : Option (List Char) :=
  match w.toList with
  | '-' :: c :: rest => if c = '-' then none else some (c :: rest)
  | _ => none

namespace Grammar

/-- Reads the letters after one dash. The first that takes a value takes the rest as its value. -/
def readLetters (g : Grammar) (r : Reading) : List Char → Except Refusal Reading
  | [] => .ok r
  | c :: rest =>
    match g.options.find? (·.short = some c) with
    | none => .error .unknownArgument
    | some o =>
      if o.argument.isFlag then do
        let r ← r.takeOption o none
        g.readLetters r rest
      else
        match rest with
        | [] => r.takeOption o none
        | '=' :: value => r.takeOption o (some (String.ofList value))
        | value => r.takeOption o (some (String.ofList value))

def readOption? (g : Grammar) (r : Reading) (w : String) : Option (Except Refusal Reading) :=
  match longForm? w, shortForm? w with
  | some (name, attached), _ =>
    match g.options.find? (·.long = name) with
    | some o => some (r.takeOption o attached)
    | none => some (.error .unknownArgument)
  | none, some letters => some (g.readLetters r letters)
  | none, none => none

def read (g : Grammar) (r : Reading) : List String → Except Refusal Reading
  | [] => .ok r
  | w :: rest =>
    if w = "--" then rest.foldlM Reading.takeWord r
    else
      match g.readOption? r w with
      | some step => do g.read (← step) rest
      | none =>
        if r.isWaiting then g.read (r.giveValue w) rest
        else do g.read (← r.takeWord w) rest

/-- Reads all words of a command, none of which may be missing. -/
def readAll (g : Grammar) (ws : List String) : Except Refusal Reading := do
  let r ← (← g.read (.start g) ws).settle
  if r.expected.isEmpty then .ok r else .error .missingArgument

end Grammar

end RackInventory
