import RackInventory.Url.Form

/-!
# Trees of files

A tree of files is a list of places, each with a file's bytes or the mark of a directory. The
directories on the way to an entry exist with it. A path starts at the working directory or at the
root, and each of its names is looked up in a directory; only the last may be missing, when a file is
written there.
-/

namespace RackInventory

/-- What a path leads to. -/
inductive Entry where
  | file (bytes : Bytes)
  | directory
deriving DecidableEq

inductive FileError where
  | notFound
  | notDirectory
  | isDirectory
  | notText
  | nameTooLong
  | nullInName
  | other (text : String)
deriving DecidableEq, Repr

def FileError.message : FileError → String
  | .notFound => "No such file or directory (os error 2)"
  | .notDirectory => "Not a directory (os error 20)"
  | .isDirectory => "Is a directory (os error 21)"
  | .notText => "stream did not contain valid UTF-8"
  | .nameTooLong => "File name too long (os error 36)"
  | .nullInName => "file name contained an unexpected NUL byte"
  | .other text => text

/-- The names on the way from the working directory, or from the root. -/
abbrev Place := List (List Char)

abbrev Files := List (Place × Entry)

namespace Files

/-- The place of the root. No name has a slash in it. -/
def root : Place := [['/']]

def names (path : String) : List (List Char) := Form.split '/' path.toList

def startOf (path : String) : Place := if (names path).head? = some [] then root else []

/-- The place that a name leads to. -/
def enter (place : Place) (name : List Char) : Place :=
  if name = [] ∨ name = ['.'] then place
  else if name = ['.', '.'] then if place = root then place else place.dropLast
  else place ++ [name]

/-- The tree with entries at some paths. -/
def ofList (l : List (String × Entry)) : Files :=
  l.map fun (path, e) => ((names path).foldl enter (startOf path), e)

/-- What is at a place. -/
def entry? (files : Files) (place : Place) : Option Entry :=
  match files.lookup place with
  | some e => some e
  | none =>
    if place.isEmpty ∨ place = root ∨ files.any (fun (p, _) => place.isPrefixOf p) then
      some .directory
    else none

/-- The place that some names lead to, one after the other. -/
def walk (files : Files) : Place → List (List Char) → Except FileError Place
  | place, [] => .ok place
  | place, name :: rest =>
    match files.entry? place with
    | none => .error .notFound
    | some (.file _) => .error .notDirectory
    | some .directory =>
      if 255 < (Utf8.encode name).length then .error .nameTooLong
      else walk files (enter place name) rest

/-- Whether a path has a character that no path may have. -/
def hasNull (path : String) : Bool := path.toList.any (·.toNat == 0)

/-- Whether a path is too long to be looked up, whatever it leads to: a path has at most 4095 bytes. -/
def isTooLong (path : String) : Bool := 4096 ≤ path.utf8ByteSize

def find? (files : Files) (path : String) : Option Entry :=
  if path.isEmpty || hasNull path || isTooLong path then none
  else
    match files.walk (startOf path) (names path) with
    | .ok place => files.entry? place
    | .error _ => none

def bytes? (files : Files) (path : String) : Option Bytes :=
  match files.find? path with
  | some (.file bytes) => some bytes
  | _ => none

/-- Whether a path can only mean a directory. -/
def namesDirectory (path : String) : Bool :=
  match (names path).getLast? with
  | some name => name = [] ∨ name = ['.'] ∨ name = ['.', '.']
  | none => false

/-- The tree with a file written. Its directory must be there. -/
def write (files : Files) (path : String) (bytes : Bytes) : Except FileError Files :=
  if path.isEmpty then .error .notFound
  else if hasNull path then .error .nullInName
  else if isTooLong path then .error .nameTooLong
  else do
    let place ← files.walk (startOf path) ((names path).reverse.dropWhile (·.isEmpty)).reverse
    if namesDirectory path ∨ files.entry? place = some .directory then .error .isDirectory
    else .ok ((place, .file bytes) :: files.filter (·.1 ≠ place))

end Files

end RackInventory
