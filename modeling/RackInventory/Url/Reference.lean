import RackInventory.Url.Parser

/-!
# References

A reference says where something else is, seen from an address. It is an address of its own, or it
leaves out what it has in common with that address. A reference is taken by its grammar: a character
that may not stand in it spoils it, nothing is encoded, and only dots that are written as dots count.
-/

namespace RackInventory

structure Reference where
  scheme : Option (List Char)
  authority : Option (List Char)
  path : List Char
  query : Option (List Char)
  fragment : Option (List Char)
deriving DecidableEq

namespace Reference

def isDelimiter (c : Char) : Bool := "!$&'()*+,;=".toList.contains c

def inName (c : Char) : Bool := c.isAlphanum || "-._~".toList.contains c || isDelimiter c

def inPath (c : Char) : Bool := inName c || c == ':' || c == '@' || c == '/'

def inQuery (c : Char) : Bool := inPath c || c == '?'

/-- Whether a text consists of some characters and of escaped bytes. -/
def isMadeOf (allowed : Char → Bool) : List Char → Bool
  | [] => true
  | '%' :: a :: b :: rest =>
    (Percent.digitValue? a).isSome && (Percent.digitValue? b).isSome && isMadeOf allowed rest
  | c :: rest => allowed c && isMadeOf allowed rest

def isHost (s : List Char) : Bool :=
  if s.head? = some '[' then (Host.parse s).isOk else isMadeOf inName s

/-- Whether a text can say who is asked: a user, a host and a port. -/
def isAuthority (s : List Char) : Bool :=
  let (user, server) := Url.cutAtLastMark s
  let (host, port) := Url.spanHost false server
  isMadeOf (fun c => inName c || c == ':') (user.getD []) && isHost host &&
    (port.drop 1).all Char.isDigit

/-- The text before the first `mark`, and the text after it if there is one. -/
def cutOff (mark : Char) (s : List Char) : List Char × Option (List Char) :=
  (s.takeWhile (· ≠ mark), (s.dropWhile (· ≠ mark)).tail?)

/-- Whether the parts of a reference hold what they may. A colon in the first segment of a path would
be read as the end of a scheme. -/
def isWellFormed (r : Reference) : Bool :=
  r.authority.all isAuthority && isMadeOf inPath r.path && r.query.all (isMadeOf inQuery) &&
    r.fragment.all (isMadeOf inQuery) &&
    (r.scheme.isSome || r.authority.isSome || !(cutOff '/' r.path).1.contains ':')

def ofText? (s : List Char) : Option Reference :=
  let (whole, fragment) := cutOff '#' s
  let (front, query) := cutOff '?' whole
  let (scheme, rest) := match Url.scheme? front with
    | some (scheme, rest) => (some scheme, rest)
    | none => (none, front)
  let r : Reference := match rest with
    | '/' :: '/' :: rest =>
      ⟨scheme, some (rest.takeWhile (· ≠ '/')), rest.dropWhile (· ≠ '/'), query, fragment⟩
    | _ => ⟨scheme, none, rest, query, fragment⟩
  if r.isWellFormed then some r else none

/-- Whether a text can stand in a request for who is asked. -/
def isAsked (s : List Char) : Bool :=
  let server := (Url.cutAtLastMark s).2
  !server.isEmpty && !server.contains '%' && (server.count ':' ≤ 1 || server.contains '[')

/-- Whether a request can be written with what a reference says. One with a scheme and nobody to ask
is written as if all of it were the one who is asked. -/
def isWritable (r : Reference) : Bool :=
  match r.scheme, r.authority with
  | _, some authority => isAsked authority
  | some scheme, none =>
    isAsked (scheme ++ ':' :: r.path) && !r.path.contains '/' && r.query.isNone && r.fragment.isNone
  | none, none => true

/-- The segments of a path, in which a dot stands for nothing and two dots take back the segment
before. The segments before these are given in reverse. -/
def undotted (before : List Segment) : List Segment → List Segment
  | [] => before.reverse
  | s :: rest =>
    if s = ['.'] ∨ s = ['.', '.'] then
      let before := if s = ['.'] then before else before.tail
      if rest.isEmpty then ([] :: before).reverse else undotted before rest
    else undotted (s :: before) rest

def segmentsFrom (r : Reference) (base : List Segment) : List Segment :=
  match r.path with
  | [] => base
  | '/' :: path => undotted [] (Form.split '/' path)
  | path => undotted [] (base.dropLast ++ Form.split '/' path)

/-- The address that a reference leads to from another one, if something can be asked there. -/
def resolve? (r : Reference) (base : Url) : Option Url :=
  match r.scheme, r.authority with
  | scheme, some authority => do
    let server := scheme.getD base.scheme ++ ':' :: '/' :: '/' :: authority
    let u ← (Url.parse (String.ofList server)).toOption
    return { u with path := .segments (r.segmentsFrom [[]]), query := r.query }
  | some _, none => none
  | none, none =>
    match base.path with
    | .plain _ => none
    | .segments all => some { base with
        path := .segments (r.segmentsFrom all)
        query := if r.path.isEmpty then r.query.or base.query else r.query
        fragment := none }

end Reference

end RackInventory
