import RackInventory.Url.Form
import RackInventory.Url.Segments

/-!
# Addresses

An address has a scheme and a path, and may have an authority, a query and a fragment. Its parts are
kept in their written form. The path is a list of segments or, for an address such as
`mailto:someone`, a plain text. When an address without authority has a path that starts with an
empty segment, a dot keeps the path from looking like an authority.
-/

namespace RackInventory

/-- A scheme for local files, one of the other well-known schemes, or any other. -/
inductive SchemeKind where
  | file
  | special
  | other
deriving DecidableEq, Repr

namespace SchemeKind

def ofScheme (scheme : List Char) : SchemeKind :=
  match String.ofList scheme with
  | "http" | "https" | "ws" | "wss" | "ftp" => .special
  | "file" => .file
  | _ => .other

def isFile (k : SchemeKind) : Bool := k == .file

def isSpecial (k : SchemeKind) : Bool := k != .other

end SchemeKind

/-- The port that need not be written. -/
def defaultPort (scheme : List Char) : Option Nat :=
  match String.ofList scheme with
  | "http" | "ws" => some 80
  | "https" | "wss" => some 443
  | "ftp" => some 21
  | _ => none

/-- Who is asked. The user part, when there is one, ends with its mark. -/
structure Authority where
  user : List Char
  host : List Char
  port : Option Nat
deriving DecidableEq

namespace Authority

def portText : Option Nat → List Char
  | some n => ':' :: Nat.toDigits 10 n
  | none => []

def hostPort (a : Authority) : List Char := a.host ++ portText a.port

def text (a : Authority) : List Char := '/' :: '/' :: a.user ++ a.hostPort

end Authority

/-- A plain text, or segments. -/
inductive UrlPath where
  | plain (text : List Char)
  | segments (all : List Segment)
deriving DecidableEq

def UrlPath.text : UrlPath → List Char
  | .plain t => t
  | .segments all => all.flatMap ('/' :: ·)

structure Url where
  scheme : List Char
  authority : Option Authority
  guarded : Bool
  path : UrlPath
  query : Option (List Char)
  fragment : Option (List Char)
deriving DecidableEq

namespace Url

def kind (u : Url) : SchemeKind := .ofScheme u.scheme

/-- A part that is written after its mark. -/
def marked (mark : Char) : Option (List Char) → List Char
  | some t => mark :: t
  | none => []

def chars (u : Url) : List Char :=
  u.scheme ++ ':' :: (match u.authority with | some a => a.text | none => []) ++
    (if u.guarded then ['/', '.'] else []) ++ u.path.text ++ marked '?' u.query ++
    marked '#' u.fragment

def text (u : Url) : String := String.ofList u.chars

/-- What a request for the address names on its server. -/
def target (u : Url) : String := String.ofList (u.path.text ++ marked '?' u.query)

def segments? (u : Url) : Option (List Segment) :=
  match u.path with
  | .segments (s :: rest) => some (s :: rest)
  | _ => none

def withSegments (u : Url) (all : List Segment) : Url := { u with path := .segments all }

def extended (u : Url) (path : List Segment) (texts : List (List Char)) : List Segment :=
  texts.foldl (Segment.append u.kind.isFile u.kind.isSpecial) path

def withPair (u : Url) (name value : String) : Url :=
  { u with query := some (Form.pair name value).toList }

end Url

end RackInventory
