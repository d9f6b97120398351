import RackInventory.Text.Blank
import RackInventory.Url.Basic

/-!
# Reading addresses

An address is read without a page that it could be relative to. Blanks and control characters at
both ends, and tabs and line breaks anywhere, are ignored. The well-known schemes need a host, take
a backslash for a slash, and do not count the slashes in front of the host.
-/

namespace RackInventory.Url

inductive Error where
  | relative
  | emptyHost
  | domain
  | port
  | ipv4
  | ipv6
  | character
deriving DecidableEq, Repr

def Error.message : Error → String
  | .relative => "relative URL without a base"
  | .emptyHost => "empty host"
  | .domain => "invalid international domain name"
  | .port => "invalid port number"
  | .ipv4 => "invalid IPv4 address"
  | .ipv6 => "invalid IPv6 address"
  | .character => "invalid domain character"

def Error.ofHost : Host.Error → Error
  | .empty => .emptyHost
  | .name => .domain
  | .ipv4 => .ipv4
  | .ipv6 => .ipv6
  | .character => .character

def trimmed (s : List Char) : List Char := trimBoth (·.toNat ≤ 0x20) s

def significant (s : List Char) : List Char := (trimmed s).filter (!Segment.isIgnored ·)

/-- The scheme, in small letters, and what follows its colon. -/
def scheme? (s : List Char) : Option (List Char × List Char) :=
  let inScheme (c : Char) : Bool := c.isAlphanum || c == '+' || c == '-' || c == '.'
  match s.head?, s.dropWhile inScheme with
  | some c, ':' :: rest =>
    if c.isAlpha then some ((s.takeWhile inScheme).map Host.lowerAscii, rest) else none
  | _, _ => none

/-- Whether a character separates segments. -/
def isSeparator (special : Bool) (c : Char) : Bool := c == '/' || (special && c == '\\')

def endsPath (c : Char) : Bool := c == '?' || c == '#'

/-- The parts between separators, at least one. -/
def splitSegments (special : Bool) : List Char → List (List Char)
  | [] => [[]]
  | c :: rest =>
    if isSeparator special c then [] :: splitSegments special rest
    else match splitSegments special rest with
      | [] => [[c]]
      | part :: parts => (c :: part) :: parts

def readSegments (kind : SchemeKind) (s : List Char) : List Segment :=
  Segment.addAll kind.isFile []
    ((splitSegments kind.isSpecial s).map (Percent.encode Percent.pathSet))

/-- The address with the query and the fragment that a text starts with. -/
def withTail (u : Url) (s : List Char) : Url :=
  let special := u.kind.isSpecial
  let afterQuery := s.dropWhile (· ≠ '#')
  { u with
    query := match s with
      | '?' :: q => some (Percent.encode (Percent.querySet special) (q.takeWhile (· ≠ '#')))
      | _ => none
    fragment := match afterQuery with
      | '#' :: f => some (Percent.encode Percent.fragmentSet f)
      | _ => none }

/-- The part before the last `@` and the part after it; no first part without one. -/
def cutAtLastMark (s : List Char) : Option (List Char) × List Char :=
  let host := (s.reverse.takeWhile (· ≠ '@')).reverse
  if host.length = s.length then (none, s) else (some (s.take (s.length - host.length - 1)), host)

/-- The user and the password, encoded, with their mark. An empty password is not written. -/
def userText (s : List Char) : List Char :=
  let encode := Percent.encode Percent.userinfoSet
  let name := encode (s.takeWhile (· ≠ ':'))
  let password := encode ((s.dropWhile (· ≠ ':')).drop 1)
  let all := if password.isEmpty then name else name ++ ':' :: password
  if all.isEmpty then [] else all ++ ['@']

/-- The host at the front: up to a colon that is not in brackets. -/
def spanHost (inBrackets : Bool) : List Char → List Char × List Char
  | [] => ([], [])
  | c :: rest =>
    if c = ':' ∧ inBrackets = false then ([], c :: rest)
    else
      let (host, after) := spanHost (if c = '[' then true else if c = ']' then false else inBrackets) rest
      (c :: host, after)

def readPort (scheme s : List Char) : Except Error (Option Nat × List Char) :=
  let digits := s.takeWhile Char.isDigit
  let n := digits.foldl (fun n c => n * 10 + (c.toNat - 48)) 0
  let rest := s.dropWhile Char.isDigit
  let ended := match rest with
    | [] => true
    | c :: _ => c == '\\'
  if 65535 < n ∨ ended = false then .error .port
  else .ok (if digits.isEmpty ∨ defaultPort scheme = some n then none else some n, rest)

def readHostPort (scheme : List Char) (user s : List Char) :
    Except Error (Authority × List Char) := do
  let special := (SchemeKind.ofScheme scheme).isSpecial
  let (written, after) := spanHost false s
  if special ∧ written.isEmpty then throw .emptyHost
  let host ← ((if special then Host.parse written else Host.parseOpaque written).mapError .ofHost)
  match after with
  | ':' :: rest =>
    if host.isEmpty then throw .emptyHost
    let (port, rest) ← readPort scheme rest
    return (⟨user, host, port⟩, rest)
  | rest =>
    if host.isEmpty ∧ user ≠ [] then throw .emptyHost
    return (⟨user, host, none⟩, rest)

/-- The path after an authority: one slash is passed over or put in front. -/
def readPath (kind : SchemeKind) (s : List Char) : UrlPath :=
  match s with
  | [] => .segments (if kind.isSpecial then [[]] else [])
  | c :: rest => .segments (readSegments kind (if isSeparator kind.isSpecial c then rest else s))

def readAuthority (scheme s : List Char) : Except Error Url := do
  let kind := SchemeKind.ofScheme scheme
  let ends (c : Char) : Bool := isSeparator kind.isSpecial c || endsPath c
  let (user, hostPort) := cutAtLastMark (s.takeWhile (!ends ·))
  let rest := s.dropWhile (!ends ·)
  if user = some [] ∧ hostPort.isEmpty ∧ rest ≠ [] then throw .emptyHost
  let (authority, after) ← readHostPort scheme (userText (user.getD [])) hostPort
  let pathText := (after ++ rest).takeWhile (!endsPath ·)
  return withTail
    { scheme, authority := some authority, guarded := false, path := readPath kind pathText
      query := none, fragment := none }
    ((after ++ rest).dropWhile (!endsPath ·))

/-- The host of a file, when it is written and is not this machine, and the path. -/
def readFileHost (s : List Char) : Except Error (Option (List Char) × List Char) := do
  let ends (c : Char) : Bool := isSeparator true c || endsPath c
  let written := s.takeWhile (!ends ·)
  if Segment.isDrive written then return (none, s)
  let rest := s.dropWhile (!ends ·)
  if written.isEmpty then return (none, rest)
  let host ← (Host.parse written).mapError .ofHost
  return (if host = "localhost".toList then none else some host, rest)

/-- The segments of the path of a file, which is part of a text with ignored characters. -/
def readFileSegments (text : List Char) (after : Nat) (path : List Char) : List Segment :=
  match Segment.cutDrive? text after path with
  | some (drive, c :: rest) =>
    match if isSeparator true c then [] else splitSegments true (c :: rest) with
    | [] => readSegments .file path
    | first :: more =>
      let encode := Percent.encode Percent.pathSet
      Segment.addAll true [drive, encode first] (more.map encode)
  | _ => readSegments .file path

/-- The address of a file, which is written in `text`. A drive at the start of the path displaces the
host. -/
def fileUrl (text : List Char) (host : Option (List Char)) (rest : List Char) : Url :=
  let pathText := rest.takeWhile (!endsPath ·)
  let tail := rest.dropWhile (!endsPath ·)
  let path := match pathText with
    | c :: after => if isSeparator true c then after else pathText
    | [] => []
  let segments := readFileSegments text tail.length path
  let keepsHost := !(segments.head?.any Segment.isDrive) || (Segment.cutDrive? text tail.length path).isSome
  withTail
    { scheme := "file".toList
      authority := some ⟨[], if keepsHost then host.getD [] else [], none⟩
      guarded := false
      path := .segments (Segment.trimStart true segments)
      query := none
      fragment := none }
    tail

def readFile (text s : List Char) : Except Error Url := do
  match s with
  | a :: b :: rest =>
    if isSeparator true a && isSeparator true b then
      let (host, rest) ← readFileHost rest
      return fileUrl text host rest
    else return fileUrl text none s
  | _ => return fileUrl text none s

def readOther (scheme s : List Char) : Except Error Url :=
  match s with
  | '/' :: '/' :: rest => readAuthority scheme rest
  | _ =>
    let pathText := s.takeWhile (!endsPath ·)
    let tail := s.dropWhile (!endsPath ·)
    match pathText with
    | '/' :: path =>
      let segments := readSegments .other path
      .ok <| withTail
        { scheme, authority := none
          guarded := decide (1 < segments.length) && segments.head? == some []
          path := .segments segments, query := none, fragment := none } tail
    | _ =>
      .ok <| withTail
        { scheme, authority := none, guarded := false
          path := .plain (Percent.encode Percent.control pathText)
          query := none, fragment := none } tail

def parse (s : String) : Except Error Url :=
  match scheme? (significant s.toList) with
  | none => .error .relative
  | some (scheme, rest) =>
    match SchemeKind.ofScheme scheme with
    | .file => readFile (trimmed s.toList) rest
    | .special => readAuthority scheme (rest.dropWhile (isSeparator true))
    | .other => readOther scheme rest

end RackInventory.Url
