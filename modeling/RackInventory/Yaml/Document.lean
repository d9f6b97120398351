import RackInventory.Yaml.Basic
import RackInventory.Yaml.Token.Lexer

/-!
# Reading YAML documents

A text holds one document. Its directives come first and declare the handles of tags. A value may have
an anchor and a tag, in either order and at most one of each; the anchor gives it a number, which is the
count of the names that are in use before it.
-/

namespace RackInventory.Yaml

/-- The tokens that are left, the names of anchors with their numbers, and the handles of tags. -/
structure Reading where
  tokens : List Token
  names : List (List Char × Nat)
  handles : List (List Char)

/-- A step that reads from what is left, or refuses it. -/
abbrev Reader (α : Type) := StateT Reading Option α

namespace Reader

def guard (b : Bool) : Reader Unit := fun r => if b then some ((), r) else none

def peek : Reader (Option Token) := do return (← get).tokens.head?

def advance : Reader Unit := modify fun r => { r with tokens := r.tokens.drop 1 }

def passed (t : Token) : Reader Bool := do
  let here := (← peek) == some t
  if here then advance
  return here

def expect (t : Token) : Reader Unit := do guard (← passed t)

/-- Whether one of some tokens comes next. -/
def atAny (ts : List Token) : Reader Bool := do return (← peek).any ts.contains

/-- The number of the value that a reference stands for. -/
def numberOf (name : List Char) : Reader Nat := do
  match (← get).names.lookup name with
  | some n => return n
  | none => fun _ => none

/-- Gives a name to the value that follows; its number. -/
def giveName : Option (List Char) → Reader (Option Nat)
  | none => return none
  | some name => do
    let names := (← get).names
    modify fun r => { r with names := (name, names.length) :: names.filter (·.1 ≠ name) }
    return some names.length

def anchor : Reader (Option (List Char)) := do
  match ← peek with
  | some (.anchor name) => advance; return some name
  | _ => return none

def tag : Reader (Option (List Char)) := do
  match ← peek with
  | some (.tag handle) => advance; return some handle
  | _ => return none

/-- Passes over the anchor and the tag of a value: the number that it gets, and whether it has either.
The handle of a tag must have been declared. -/
def properties : Reader (Option Nat × Bool) := do
  let before ← anchor
  let handle ← tag
  let name ← if before.isSome then pure before else anchor
  let handles := (← get).handles
  guard (handle.all fun h => h.isEmpty || handles.contains h)
  return (← giveName name, name.isSome || handle.isSome)

mutual

/-- A value. In brackets there are no indented lists and mappings, and a list may stand at the column of
its key only after one. -/
def node : (fuel : Nat) → (inBlock afterKey : Bool) → Reader Yaml
  | 0, _, _ => fun _ => none
  | fuel + 1, inBlock, afterKey => do
    match ← peek with
    | some (.reference name) => advance; return .reference (← numberOf name)
    | _ =>
      let (label, hasProperties) ← properties
      match ← peek with
      | some (.scalar text) => advance; return .scalar label (String.ofList text)
      | some .openBracket => advance; return .sequence label (← flowItems fuel true)
      | some .openBrace => advance; return .mapping label (← flowMembers fuel true)
      | some .item =>
        if afterKey then return .sequence label (← items fuel true) else missing label hasProperties
      | some .blockSequence =>
        if inBlock then advance; return .sequence label (← items fuel false)
        else missing label hasProperties
      | some .blockMapping =>
        if inBlock then advance; return .mapping label (← members fuel)
        else missing label hasProperties
      | _ => missing label hasProperties

/-- A value of which there is only an anchor or a tag. -/
def missing (label : Option Nat) (hasProperties : Bool) : Reader Yaml := do
  guard hasProperties
  return .scalar label ""

/-- A value that is left out before one of some tokens. -/
def nodeUnless : (fuel : Nat) → (ends : List Token) → (inBlock afterKey : Bool) → Reader Yaml
  | 0, _, _, _ => fun _ => none
  | fuel + 1, ends, inBlock, afterKey => do
    if (← atAny ends) then return .scalar none "" else node fuel inBlock afterKey

/-- The items of a list, up to its end. That of one at the column of its key is not marked. -/
def items : (fuel : Nat) → (unmarked : Bool) → Reader (List Yaml)
  | 0, _ => fun _ => none
  | fuel + 1, unmarked => do
    if (← passed .item) then
      let ends := if unmarked then [.item, .key, .value, .blockEnd] else [.item, .blockEnd]
      return (← nodeUnless fuel ends true false) :: (← items fuel unmarked)
    else
      if !unmarked then expect .blockEnd
      return []

def members : (fuel : Nat) → Reader (List (Yaml × Yaml))
  | 0 => fun _ => none
  | fuel + 1 => do
    if (← passed .blockEnd) then return []
    else
      let ends := [.key, .value, .blockEnd]
      expect .key
      let k ← nodeUnless fuel ends true true
      let v ← if (← passed .value) then nodeUnless fuel ends true true else pure (.scalar none "")
      return (k, v) :: (← members fuel)

/-- The items of a list in brackets. A key that is marked and left out takes the next token with it. -/
def flowItems : (fuel : Nat) → (first : Bool) → Reader (List Yaml)
  | 0, _ => fun _ => none
  | fuel + 1, first => do
    if (← passed .closeBracket) then return []
    else
      if !first then expect .comma
      if (← passed .closeBracket) then return []
      else if (← passed .key) then
        let k ← if (← atAny [.value, .comma, .closeBracket]) then do advance; pure (.scalar none "")
          else node fuel false false
        return .mapping none [(k, ← flowValue fuel .closeBracket)] :: (← flowItems fuel false)
      else return (← node fuel false false) :: (← flowItems fuel false)

def flowMembers : (fuel : Nat) → (first : Bool) → Reader (List (Yaml × Yaml))
  | 0, _ => fun _ => none
  | fuel + 1, first => do
    if (← passed .closeBrace) then return []
    else
      if !first then expect .comma
      if (← passed .closeBrace) then return []
      else if (← passed .key) then
        let k ← nodeUnless fuel [.value, .comma, .closeBrace] false false
        return (k, ← flowValue fuel .closeBrace) :: (← flowMembers fuel false)
      else return (← node fuel false false, .scalar none "") :: (← flowMembers fuel false)

/-- The value of a key in brackets, which may be left out. -/
def flowValue : (fuel : Nat) → (close : Token) → Reader Yaml
  | 0, _ => fun _ => none
  | fuel + 1, close => do
    if (← passed .value) then nodeUnless fuel [.comma, close] false false else return .scalar none ""

end

/-- The directives before a document. There is at most one version, and each handle is declared
once. -/
def directives : (fuel : Nat) → (versioned : Bool) → Reader Unit
  | 0, _ => pure ()
  | fuel + 1, versioned => do
    match ← peek with
    | some (.version major minor) =>
      guard (!versioned && major == 1 && (minor == 1 || minor == 2))
      advance
      directives fuel true
    | some (.handle name) =>
      guard (!(← get).handles.contains name)
      modify fun r => { r with handles := name :: r.handles }
      advance
      directives fuel versioned
    | _ => pure ()

/-- The directives and the mark at the start of a document, if there are any; whether there are. -/
def opening : Reader Bool := do
  match ← peek with
  | some (.version ..) | some (.handle _) | some .documentStart =>
    directives (← get).tokens.length false
    expect .documentStart
    return true
  | _ => return false

def atEmpty : Reader Bool := do
  match ← peek with
  | none | some (.version ..) | some (.handle _) | some .documentStart | some .documentEnd =>
    return true
  | _ => return false

/-- A document with nothing after it but marks of its end. -/
def document : Reader Yaml := do
  let opened ← opening
  modify fun r => { r with handles := ['!'] :: ['!', '!'] :: r.handles }
  let fuel := 4 * (← get).tokens.length + 4
  let y ← if opened && (← atEmpty) then pure (.scalar none "") else node fuel true false
  modify fun r => { r with tokens := r.tokens.dropWhile (· == .documentEnd) }
  guard (← get).tokens.isEmpty
  return y

end Reader

def parse? (s : String) : Option Yaml := do
  let chars := s.toList
  if chars.all isAllowed then
    let tokens ← Token.ofChars? (plainBreaks chars)
    return (← (Reader.document.run ⟨tokens, [], []⟩)).1
  else none

end RackInventory.Yaml
