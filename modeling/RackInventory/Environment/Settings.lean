import RackInventory.Configuration.File
import RackInventory.Text.Alphanumeric

/-!
# A file of settings

A file of settings gives values to environment variables that have none, line by line. A value may be
quoted, with single quotes that keep everything and double quotes that let escapes and variables
through, and a quoted value may go on over several lines. The first line that is not understood, or is
no text, ends the file, and what was read before it counts. A variable cannot get a value with a NUL
character; the attempt fails as a whole.
-/

namespace RackInventory

namespace Settings

inductive Scan where
  | complete
  | escape
  | strong
  | strongEscape
  | weak
  | weakEscape
  | gap
deriving DecidableEq

/-- The state after a character; nothing where a comment starts. -/
def Scan.step (s : Scan) (c : Char) : Option Scan :=
  match s with
  | .gap =>
    if c = '#' then none
    else if c = '\\' then some .escape
    else if c = '"' then some .weak
    else if c = '\'' then some .strong
    else some .complete
  | .escape => some .complete
  | .complete =>
    if c = '\\' then some .escape
    else if c = '"' then some .weak
    else if c = '\'' then some .strong
    else if isBlank c ∧ c ≠ '\n' ∧ c ≠ '\r' then some .gap
    else some .complete
  | .weak => some (if c = '\\' then .weakEscape else if c = '"' then .complete else .weak)
  | .weakEscape => some .weak
  | .strong => some (if c = '\\' then .strongEscape else if c = '\'' then .complete else .strong)
  | .strongEscape => some .strong

/-- Goes over a line; the state at its end, or what stands before a comment. -/
def Scan.line (s : Scan) : (before : List Char) → List Char → Except (List Char) Scan
  | _, [] => .ok s
  | before, c :: rest =>
    match s.step c with
    | some s => s.line (before ++ [c]) rest
    | none => .error before

/-- The first line, with its line break, and the rest. -/
def cutLine (s : List Char) : List Char × List Char :=
  let line := s.takeWhile (· ≠ '\n')
  (line ++ (s.drop line.length).take 1, s.drop (line.length + 1))

def withoutBreak (line : List Char) : List Char :=
  match line.reverse with
  | '\n' :: '\r' :: rest => rest.reverse
  | '\n' :: rest => rest.reverse
  | _ => line

/-- The settings of a text, which may each take several lines. The last element is missing when the
text ends inside one. -/
def logicalLines : (fuel : Nat) → Scan → (held : List Char) → List Char → List (Option (List Char))
  | 0, _, _, _ => []
  | fuel + 1, state, held, s =>
    match s with
    | [] => if state = .complete then [] else [none]
    | _ =>
      let (line, rest) := cutLine s
      if ((held ++ line).dropWhile isBlank).head? = some '#' then
        some [] :: logicalLines fuel .complete [] rest
      else
        match state.line [] line with
        | .error before => some (held ++ before) :: logicalLines fuel .complete [] rest
        | .ok .complete => some (withoutBreak (held ++ line)) :: logicalLines fuel .complete [] rest
        | .ok state => logicalLines fuel state (held ++ line) rest

/-- How much of a variable's name has been read: none, a bare name, or a name in braces. -/
inductive Naming where
  | none
  | bare
  | braced
deriving DecidableEq

/-- The state of reading a value. -/
structure Value where
  output : List Char
  strong : Bool
  weak : Bool
  escaped : Bool
  ended : Bool
  naming : Naming
  name : List Char

/-- The value of a variable: from the environment, or from an earlier line, or nothing. -/
def lookUp (env : Environment) (read : List (String × String)) (name : List Char) : List Char :=
  let name := String.ofList name
  ((env.lookup name).getD ((read.lookup name).getD "")).toList

/-- Reads one character; `none` when it does not belong here, and the second component tells that a
comment starts. -/
def Value.step (look : List Char → List Char) (v : Value) (c : Char) : Option (Value × Bool) :=
  if v.ended then
    if c = ' ' ∨ c = '\t' then some (v, false)
    else if c = '#' then some (v, true)
    else none
  else if v.escaped then
    if ['\\', '\'', '"', '$', ' '].contains c then
      some ({ v with output := v.output ++ [c], escaped := false }, false)
    else if c = 'n' then some ({ v with output := v.output ++ ['\n'], escaped := false }, false)
    else none
  else if v.strong then
    if c = '\'' then some ({ v with strong := false }, false)
    else some ({ v with output := v.output ++ [c] }, false)
  else if v.naming ≠ .none ∧ isAlphanumeric c then some ({ v with name := v.name ++ [c] }, false)
  else if v.naming = .bare then
    if c = '{' ∧ v.name.isEmpty then some ({ v with naming := .braced }, false)
    else
      let output := v.output ++ look v.name
      if c = '$' then some ({ v with output, name := [] }, false)
      else some ({ v with output := output ++ [c], name := [], naming := .none }, false)
  else if v.naming = .braced then
    if c = '}' then some ({ v with output := v.output ++ look v.name, name := [], naming := .none }, false)
    else some ({ v with name := v.name ++ [c] }, false)
  else if c = '$' then some ({ v with naming := .bare }, false)
  else if v.weak then
    if c = '"' then some ({ v with weak := false }, false)
    else if c = '\\' then some ({ v with escaped := true }, false)
    else some ({ v with output := v.output ++ [c] }, false)
  else if c = '\'' then some ({ v with strong := true }, false)
  else if c = '"' then some ({ v with weak := true }, false)
  else if c = '\\' then some ({ v with escaped := true }, false)
  else if c = ' ' ∨ c = '\t' then some ({ v with ended := true }, false)
  else some ({ v with output := v.output ++ [c] }, false)

def Value.readAll (look : List Char → List Char) (v : Value) : List Char → Option Value
  | [] => some v
  | c :: rest =>
    match v.step look c with
    | none => none
    | some (v, true) => some v
    | some (v, false) => v.readAll look rest

def value? (look : List Char → List Char) (s : List Char) : Option (List Char) := do
  let v ← Value.readAll look ⟨[], false, false, false, false, .none, []⟩ s
  if v.naming = .braced ∨ v.strong ∨ v.weak then none else some (v.output ++ look v.name)

def skipBlanks (s : List Char) : List Char := s.dropWhile isBlank

def key? (s : List Char) : Option (List Char × List Char) :=
  let inName (c : Char) : Bool := c.isAlphanum || c == '_' || c == '.'
  match s.head? with
  | some c => if c.isAlpha || c == '_' then some (s.takeWhile inName, s.dropWhile inName) else none
  | none => none

def equals? : List Char → Option (List Char)
  | '=' :: rest => some rest
  | _ => none

/-- The name that is set, and what follows its equals sign. The word `export` may stand in front. -/
def assigned? (s : List Char) : Option (List Char × List Char) := do
  let (key, rest) ← key? s
  match equals? (skipBlanks rest) with
  | some rest => return (key, rest)
  | none =>
    if key = "export".toList then
      let (key, rest) ← key? (skipBlanks rest)
      return (key, ← equals? (skipBlanks rest))
    else none

/-- The setting on a line: none on an empty one, and an error on one that is not understood. -/
def setting (look : List Char → List Char) (line : List Char) :
    Except Unit (Option (String × String)) :=
  let s := skipBlanks (trimBoth isBlank line)
  if s.isEmpty ∨ s.head? = some '#' then .ok none
  else
    match assigned? s with
    | none => .error ()
    | some (key, rest) =>
      let rest := skipBlanks rest
      if rest.isEmpty ∨ rest.head? = some '#' then .ok (some (String.ofList key, ""))
      else
        match value? look rest with
        | some v => .ok (some (String.ofList key, String.ofList v))
        | none => .error ()

/-- The environment with the settings of some lines. Variables that have a value keep it. -/
def apply (env : Environment) (read : List (String × String)) :
    List (Option (List Char)) → Option Environment
  | [] => some env
  | none :: _ => some env
  | some line :: rest =>
    match setting (lookUp env read) line with
    | .error () => some env
    | .ok none => apply env read rest
    | .ok (some (key, value)) =>
      if (env.lookup key).isSome then apply env ((key, value) :: read) rest
      else if value.toList.contains '\x00' then none
      else apply ((key, value) :: env) ((key, value) :: read) rest

def byteLines : Bytes → List Bytes
  | [] => []
  | b :: rest =>
    match byteLines rest with
    | [] => [[b]]
    | line :: lines => if b = 0x0A then [b] :: line :: lines else (b :: line) :: lines

def leadingText (bytes : Bytes) : String :=
  String.join ((((byteLines bytes).map Utf8.toString?).takeWhile Option.isSome).filterMap id)

end Settings

/-- The environment with the settings of a text. A byte order mark in front is passed over. -/
def Environment.withSettings? (env : Environment) (text : String) : Option Environment :=
  let chars := match text.toList with
    | c :: rest => if c.toNat = 0xFEFF then rest else c :: rest
    | [] => []
  Settings.apply env [] (Settings.logicalLines (chars.length + 1) .complete [] chars)

/-- The environment with the settings of the file `.env`, if there is one. -/
def Environment.withSettingsIn? (env : Environment) (files : Files) : Option Environment :=
  match files.bytes? ".env" with
  | some bytes => env.withSettings? (Settings.leadingText bytes)
  | none => some env

end RackInventory
