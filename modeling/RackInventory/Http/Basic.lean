import RackInventory.Text.Blank
import RackInventory.Text.Lowercase
import RackInventory.Text.Utf8
import RackInventory.Url.Basic

/-!
# Requests and replies

A request has no body. A reply is a response, or nothing when the exchange failed before one came. A
response whose body was cut has a status and no body. A status that announces a later response, or
is none, does not count as a response, and neither does one with a header that is malformed. Of the
headers, a response keeps the media type and the location.
-/

namespace RackInventory

inductive Method where
  | get
  | post
deriving DecidableEq, Repr

def Method.name : Method → String
  | .get => "GET"
  | .post => "POST"

structure Request where
  method : Method
  url : Url
  agent : Option String
deriving DecidableEq

def Request.reaches (r : Request) (host : List Char) : Bool :=
  r.url.scheme == ['h', 't', 't', 'p'] && r.url.authority.any (·.hostPort == host)

structure Response where
  status : Nat
  mediaType : Option String
  body : Option Bytes
  location : Option String := none
deriving DecidableEq

abbrev Reply := Option Response

namespace Response

def ofStatus (status : Nat) : Response := { status, mediaType := none, body := some [] }

/-- Whether a status ends an exchange. -/
def isFinal (status : Nat) : Bool := status = 101 || (200 ≤ status && status ≤ 999)

def isSuccess (status : Nat) : Bool := 200 ≤ status && status < 300

def isFailure (status : Nat) : Bool := 400 ≤ status && status < 600

/-- Whether responses with a status have no body. -/
def isBare (status : Nat) : Bool := status = 204 || status = 304

/-- Whether a line can be the value of a header: it holds no control characters but tabs. -/
def isHeaderValue (line : List Char) : Bool :=
  line.all fun c => c == '\t' || (0x20 ≤ c.toNat && c.toNat != 0x7F)

/-- Whether a line is a header: a name of letters, digits and some marks, a colon, and a value. -/
def isHeader (line : List Char) : Bool :=
  let isNameChar (c : Char) : Bool :=
    c.isAlphanum || "!#$%&'*+-.^_|~\x60".toList.contains c
  let name := line.takeWhile isNameChar
  let rest := line.drop name.length
  !name.isEmpty && rest.head? == some ':' && isHeaderValue (rest.drop 1)

/-- The lines of a text, each broken by a line feed with or without a carriage return. -/
def headerLines (text : String) : List (List Char) :=
  let lines := Form.split '\n' text.toList
  let unbroken (l : List Char) : List Char := if l.getLast? == some '\r' then l.dropLast else l
  lines.dropLast.map unbroken ++ lines.getLast?.toList

/-- The value of a header, whose name is written in small letters here. -/
def header? (name : String) (lines : List String) : Option String :=
  lines.findSome? fun line =>
    let (n, value) := Form.cut ':' line.toList
    if n.map Lowercase.asciiLower = name.toList then some (trimBlanks (String.ofList value)) else none

/-- The value of a header that has been written as a text, and the headers that follow where the text
breaks. -/
def headerValue? (text : String) : Option (String × List String) :=
  match headerLines text with
  | [] => none
  | value :: more =>
    if isHeaderValue value && more.all isHeader then
      some (String.ofList value, more.map String.ofList)
    else none

def toReply (r : Response) : Reply := do
  let (mediaType, more) ← match r.mediaType with
    | none => some (none, [])
    | some text => (headerValue? text).map fun (value, more) => (some value, more)
  if isFinal r.status then
    some { r with
      mediaType
      body := if isBare r.status then some [] else r.body
      location := r.location.or (header? "location" more) }
  else none

end Response

/-- Whether requests can be sent to an address at all. -/
def Url.isWeb (u : Url) : Bool :=
  [['h', 't', 't', 'p'], ['h', 't', 't', 'p', 's']].contains u.scheme && u.authority.isSome

end RackInventory
