import RackInventory.Yaml.Scalar.Block
import RackInventory.Yaml.Scalar.Plain
import RackInventory.Yaml.Token.Tag

/-!
# The tokens of a YAML document

Outside brackets the columns of the open lists and mappings are kept: a list or a mapping starts at a
deeper column than those around it, and ends before a token that is less deep. What may turn out to be
a key is remembered, and the token that says so is put in front of it when its colon is found. A key
ends on its line, within 1024 bytes.
-/

namespace RackInventory.Yaml

/-- A place where a key may start: how many tokens stand before it, where it is, and whether nothing
else can stand there. -/
structure PossibleKey where
  index : Nat
  line : Nat
  column : Nat
  bytes : Nat
  required : Bool

/-- What has been read of a document: its tokens, the last one first; the columns of the open lists and
mappings, the innermost first; whether a key may start here; and the possible key on the innermost
level of brackets and those on the levels around it. -/
structure Lexer where
  place : Place
  tokens : List Token
  columns : List Nat
  keyAllowed : Bool
  possible : Option PossibleKey
  outer : List (Option PossibleKey)

namespace Lexer

def start (document : List Char) : Lexer := ⟨.start document, [], [], true, none, []⟩

def inBrackets (l : Lexer) : Bool := !l.outer.isEmpty

/-- The least column of what is inside of the innermost list or mapping. -/
def margin (l : Lexer) : Nat :=
  match l.columns with
  | [] => 0
  | column :: _ => column + 1

def insertToken (l : Lexer) (index : Nat) (t : Token) : Lexer :=
  let after := l.tokens.length - index
  { l with tokens := l.tokens.take after ++ t :: l.tokens.drop after }

def addToken (l : Lexer) (t : Token) : Lexer := { l with tokens := t :: l.tokens }

def addMark (l : Lexer) (t : Token) : Lexer := { l.addToken t with place := l.place.step }

def allowKey (l : Lexer) (keyAllowed : Bool) : Lexer := { l with keyAllowed }

/-- Passes over blanks, comments and line breaks. A tab does not count as a blank where a key may
start outside brackets. -/
def skip : (fuel : Nat) → Lexer → Lexer
  | 0, l => l
  | fuel + 1, l =>
    let tabs := l.inBrackets || !l.keyAllowed
    let p := l.place.stepsWhile fun c => c == ' ' || (tabs && c == '\t')
    let p := if p.head? = some '#' then p.stepsWhile (!isBreak ·) else p
    if p.atBreak then skip fuel { l with place := p.step, keyAllowed := l.keyAllowed || !l.inBrackets }
    else { l with place := p }

/-- Closes the lists and mappings that are deeper than a column. -/
def closeBlocks (least : Nat) : (columns : List Nat) → Lexer → Lexer
  | [], l => { l with columns := [] }
  | column :: rest, l =>
    if least ≤ column then closeBlocks least rest (l.addToken .blockEnd)
    else { l with columns := column :: rest }

/-- Closes the lists and mappings that do not reach `least - 1`. Brackets have none. -/
def unindent (least : Nat) (l : Lexer) : Lexer :=
  if l.inBrackets then l else closeBlocks least l.columns l

/-- Opens a list or a mapping at a column, unless one is open there or deeper. -/
def indent (index column : Nat) (t : Token) (l : Lexer) : Lexer :=
  if l.inBrackets ∨ column < l.margin then l
  else { l.insertToken index t with columns := column :: l.columns }

/-- What is no key, because something else has been found. -/
def noKey (l : Lexer) : Option Lexer :=
  if l.possible.any (·.required) then none else some { l with possible := none }

/-- Whether a possible key has got too long. -/
def isStale (p : Place) (k : PossibleKey) : Bool := k.line < p.line || k.bytes + 1024 < p.bytes

def dropStale (l : Lexer) : Option Lexer :=
  let fresh : Option PossibleKey → Option PossibleKey := Option.filter (!isStale l.place ·)
  if (l.possible :: l.outer).any (·.any fun k => k.required && isStale l.place k) then none
  else some { l with possible := fresh l.possible, outer := l.outer.map fresh }

/-- Remembers that a key may start here. -/
def rememberKey (l : Lexer) : Option Lexer :=
  if l.keyAllowed then do
    let l ← l.noKey
    let p := l.place
    let required := !l.inBrackets && p.column + 1 == l.margin
    return { l with possible := some ⟨l.tokens.length, p.line, p.column, p.bytes, required⟩ }
  else some l

def keyPart (token : Token) (after : Place) (l : Lexer) : Option Lexer := do
  let l ← l.rememberKey
  return ({ l with place := after }.allowKey false).addToken token

def openFlow (t : Token) (l : Lexer) : Option Lexer := do
  let l ← l.rememberKey
  return { l.addMark t with possible := none, outer := l.possible :: l.outer, keyAllowed := true }

def closeFlow (t : Token) (l : Lexer) : Option Lexer := do
  let l ← l.noKey
  let l := (l.addMark t).allowKey false
  match l.outer with
  | [] => return l
  | possible :: outer => return { l with possible, outer }

/-- A line at the left margin that ends everything that is open. -/
def atMargin (l : Lexer) (read : Place → Option (Token × Place)) : Option Lexer := do
  let l ← (l.unindent 0).noKey
  let (token, place) ← read l.place
  return ({ l with place }.allowKey false).addToken token

def item (l : Lexer) : Option Lexer :=
  if l.inBrackets ∨ l.keyAllowed then do
    let l ← (l.indent l.tokens.length l.place.column .blockSequence).noKey
    return (l.addMark .item).allowKey true
  else none

/-- The mark of a key that may be of any length. -/
def explicitKey (l : Lexer) : Option Lexer :=
  if l.inBrackets ∨ l.keyAllowed then do
    let l ← (l.indent l.tokens.length l.place.column .blockMapping).noKey
    return (l.addMark .key).allowKey !l.inBrackets
  else none

/-- The mark of a value. It makes what has been remembered a key. -/
def valueMark (l : Lexer) : Option Lexer :=
  match l.possible with
  | some k =>
    let l := (l.insertToken k.index .key).indent k.index k.column .blockMapping
    some (({ l with possible := none }.addMark .value).allowKey false)
  | none =>
    if l.inBrackets ∨ l.keyAllowed then
      let l := l.indent l.tokens.length l.place.column .blockMapping
      some ((l.addMark .value).allowKey !l.inBrackets)
    else none

def block (literal : Bool) (l : Lexer) : Option Lexer := do
  let l ← l.noKey
  let (text, place) ← blockText literal l.margin l.place.step
  return ({ l with place }.allowKey true).addToken (.scalar text)

def quotedScalar (quote : Char) (l : Lexer) : Option Lexer := do
  let (text, after) ← quotedText quote l.place.step
  l.keyPart (.scalar text) after

def plainScalar (l : Lexer) : Option Lexer :=
  if startsPlain l.inBrackets l.place.rest then do
    let text ← plain l.inBrackets l.margin l.place
    let l ← l.keyPart (.scalar text.text) text.after
    return l.allowKey text.crossed
  else none

def token (c : Char) (l : Lexer) : Option Lexer :=
  let next := l.place.rest.drop 1
  let p := l.place
  if p.column = 0 ∧ c = '%' then l.atMargin directive
  else if p.atMark "---" then l.atMargin fun p => some (.documentStart, p.steps 3)
  else if p.atMark "..." then l.atMargin fun p => some (.documentEnd, p.steps 3)
  else if c = '[' then l.openFlow .openBracket
  else if c = '{' then l.openFlow .openBrace
  else if c = ']' then l.closeFlow .closeBracket
  else if c = '}' then l.closeFlow .closeBrace
  else if c = ',' then do return ((← l.noKey).addMark .comma).allowKey true
  else if c = '-' ∧ atGap next then l.item
  else if c = '?' ∧ (l.inBrackets ∨ atGap next) then l.explicitKey
  else if c = ':' ∧ (l.inBrackets ∨ atGap next) then l.valueMark
  else if c = '*' then do
    let (name, after) ← anchorName p
    l.keyPart (.reference name) after
  else if c = '&' then do
    let (name, after) ← anchorName p
    l.keyPart (.anchor name) after
  else if c = '!' then do
    let (handle, after) ← tagHandle l.inBrackets p
    l.keyPart (.tag handle) after
  else if c = '|' ∧ !l.inBrackets then l.block true
  else if c = '>' ∧ !l.inBrackets then l.block false
  else if c = '\'' ∨ c = '"' then l.quotedScalar c
  else l.plainScalar

def finish : (fuel : Nat) → Lexer → Option (List Token)
  | 0, _ => none
  | fuel + 1, l => do
    let l ← (l.skip (l.place.rest.length + 1)).dropStale
    let l := l.unindent (l.place.column + 1)
    match l.place.rest with
    | [] => return (← (l.unindent 0).noKey).tokens.reverse
    | c :: _ => finish fuel (← l.token c)

end Lexer

def Token.ofChars? (document : List Char) : Option (List Token) :=
  (Lexer.start document).finish (document.length + 1)

end RackInventory.Yaml
