import RackInventory.Http.Basic

/-!
# Exchanges on the wire

A request is a request line and some header lines, and asks for the connection to be closed
afterwards. What the server sends until then is a status line, header lines, an empty line and a
body. The body ends where its stated length says, after its last chunk, or with the connection; one
that ends too early is cut.
-/

namespace RackInventory

namespace Wire

open Response (header?)

def requestLines (r : Request) : List String :=
  [r.method.name ++ " " ++ r.url.target ++ " HTTP/1.1",
    "host: " ++ String.ofList (r.url.authority.elim [] (·.hostPort)), "accept: */*",
    "connection: close"] ++
    (r.agent.toList.map ("user-agent: " ++ ·)) ++
    (if r.method = .post then ["content-length: 0"] else []) ++ ["", ""]

def request (r : Request) : Bytes := Utf8.ofString (String.intercalate "\r\n" (requestLines r))

/-- The bytes up to the first line break, and those after it. -/
def cutLine : Bytes → Bytes × Bytes
  | 0x0D :: 0x0A :: rest => ([], rest)
  | 0x0A :: rest => ([], rest)
  | b :: rest => (b :: (cutLine rest).1, (cutLine rest).2)
  | [] => ([], [])

/-- The lines before the first empty one, and the bytes after it. -/
def cutHead : (fuel : Nat) → Bytes → List String × Bytes
  | 0, bytes => ([], bytes)
  | fuel + 1, bytes =>
    let (line, rest) := cutLine bytes
    if line.isEmpty then ([], rest)
    else
      let (lines, body) := cutHead fuel rest
      (String.ofList (Utf8.decodeLossy line) :: lines, body)

def status? (line : String) : Option Nat :=
  match (Form.split ' ' line.toList).drop 1 with
  | code :: _ => if code.length = 3 then (String.ofList code).toNat? else none
  | [] => none

/-- The number that a line of hexadecimal digits starts with. -/
def chunkSize? (line : Bytes) : Option Nat :=
  match (line.map fun b => Char.ofNat b.toNat).takeWhile fun c => (Percent.digitValue? c).isSome with
  | [] => none
  | digits => some (digits.foldl (fun n c => n * 16 + (Percent.digitValue? c).getD 0) 0)

def joinChunks : (fuel : Nat) → Bytes → Option Bytes
  | 0, _ => none
  | fuel + 1, bytes =>
    let (line, rest) := cutLine bytes
    match chunkSize? line with
    | none => none
    | some 0 => some []
    | some n =>
      if rest.length < n then none
      else (joinChunks fuel (cutLine (rest.drop n)).2).map (rest.take n ++ ·)

/-- The body of a response, unless it was cut. -/
def body? (lines : List String) (bytes : Bytes) : Option Bytes :=
  if (header? "transfer-encoding" lines).any (·.toLower = "chunked") then
    joinChunks (bytes.length + 1) bytes
  else
    match (header? "content-length" lines).bind String.toNat? with
    | some n => if bytes.length < n then none else some (bytes.take n)
    | none => some bytes

def reply (bytes : Bytes) : Reply :=
  match cutHead (bytes.length + 1) bytes with
  | ([], _) => none
  | (first :: lines, rest) =>
    match status? first with
    | some status => Response.toReply
        { status
          mediaType := header? "content-type" lines
          body := body? lines rest
          location := header? "location" lines }
    | none => none

end Wire

end RackInventory
