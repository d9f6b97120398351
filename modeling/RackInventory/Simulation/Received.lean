import RackInventory.Url.Percent

/-!
# Requests as a server sees them

A request line has a method and a target. The target is a path with an optional query, a whole
address, an authority alone, or an asterisk. The path and the query are kept as they are written; a
fragment is dropped. An authority has at most one port and one host in brackets, and escapes only in
front of its last `@`.
-/

namespace RackInventory

structure Received where
  method : String
  path : String
  query : Option String
deriving DecidableEq

namespace Received

def inMethod (c : Char) : Bool :=
  c.isAlphanum ||
    ['!', '#', '$', '%', '&', '\'', '*', '+', '-', '.', '^', '_', '\x60', '|', '~'].contains c

def inPath (c : Char) : Bool :=
  0x20 < c.toNat && c.toNat != 0x7F && !(['#', '<', '>', '?', '\x60'].contains c)

def inQuery (c : Char) : Bool :=
  0x20 < c.toNat && c.toNat != 0x7F && !(['"', '#', '<', '>'].contains c)

def inAuthority (c : Char) : Bool :=
  c.isAlphanum || ['!', '$', '&', '\'', '(', ')', '*', '+', ',', '-', '.', ';', '=', '_', '~'].contains c

/-- The path and the query of a target that starts with its path. -/
def splitTarget? (s : List Char) : Option (List Char × Option (List Char)) :=
  let s := s.takeWhile (· ≠ '#')
  let path := s.takeWhile (· ≠ '?')
  match s.drop path.length with
  | _ :: query => if path.all inPath && query.all inQuery then some (path, some query) else none
  | [] => if path.all inPath then some (path, none) else none

/-- What has been seen of an authority: its colons, opening and closing brackets, and escapes. Those
before a closing bracket or an `@` do not count, brackets apart. -/
structure AuthorityMarks where
  colons : Nat
  opened : Bool
  closed : Bool
  escaped : Bool

/-- Sees one more character of an authority. No more than eight colons stand together. -/
def AuthorityMarks.step (m : AuthorityMarks) (c : Char) : Option AuthorityMarks :=
  if c = ':' then if 8 ≤ m.colons then none else some { m with colons := m.colons + 1 }
  else if c = '[' then if m.escaped || m.opened then none else some { m with opened := true }
  else if c = ']' then
    if !m.opened || m.closed then none
    else some { m with closed := true, colons := 0, escaped := false }
  else if c = '@' then some { m with colons := 0, escaped := false }
  else if c = '%' then some { m with escaped := true }
  else if inAuthority c then some m
  else none

def isAuthority (s : List Char) : Bool :=
  match s.foldlM AuthorityMarks.step ⟨0, false, false, false⟩ with
  | some m => m.opened == m.closed && m.colons ≤ 1 && !m.escaped && s.getLast? != some '@'
  | none => false

/-- The path and the query of a whole address without its scheme. -/
def afterScheme? (s : List Char) : Option (List Char × Option (List Char)) :=
  let authority := s.takeWhile fun c => !(['/', '?', '#'].contains c)
  if authority.isEmpty || !isAuthority authority then none
  else
    match s.drop authority.length with
    | [] => some (['/'], none)
    | c :: rest => if c = '/' then splitTarget? (c :: rest) else splitTarget? ('/' :: c :: rest)

def inScheme (c : Char) : Bool := c.isAlphanum || ['+', '-', '.', '~'].contains c

/-- The path and the query that a target names. A scheme has at most 64 characters. -/
def ofTargetChars? (s : List Char) : Option (List Char × Option (List Char)) :=
  let scheme := s.takeWhile inScheme
  match s, s.drop scheme.length with
  | [], _ => none
  | ['*'], _ => some (['*'], none)
  | '/' :: _, _ => splitTarget? s
  | _, ':' :: '/' :: '/' :: rest => if 64 < scheme.length then none else afterScheme? rest
  | _, _ => if isAuthority s then some ([], none) else none

/-- The request that a method and a target make up, if both are well-formed. -/
def ofLine? (method target : String) : Option Received := do
  if method.isEmpty || !method.toList.all inMethod then none
  let (path, query) ← ofTargetChars? target.toList
  if !target.toList.all fun c => 0x20 < c.toNat && c.toNat != 0x7F then none
  return ⟨method, String.ofList path, query.map String.ofList⟩

def label (r : Received) : String := r.method ++ " " ++ r.path

end Received

end RackInventory
