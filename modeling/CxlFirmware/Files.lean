import CxlFirmware.Bytes
import CxlFirmware.IoError
import CxlFirmware.Text.Parts

/-!
# Files

A tree of folders and files with a working folder.  `walk` follows a path and
`present`, `read` and `write` are the operations on what it leads to.
-/

namespace CxlFirmware

/-- What stands at a place in a tree. -/
inductive Entry where
  | file (content : Bytes)
  | folder
  deriving DecidableEq

/-- A tree of folders and files.  A place is the list of names that leads to it from
the root. -/
structure Files where
  /-- The place of the working folder. -/
  current : List String
  entries : List (List String × Entry)
  deriving DecidableEq

/-- Where a path leads. -/
inductive Target where
  | folder (place : List String)
  | file (place : List String) (content : Bytes)
  /-- Nothing stands there, but the folder around it does. -/
  | vacant (place : List String)

namespace Files

/-- What stands at a place. -/
def entry? (files : Files) (place : List String) : Option Entry :=
  if place = [] then some .folder
  else (files.entries.find? fun entry => entry.1 == place).map Prod.snd

/-- The tree with another entry at a place. -/
def setEntry (files : Files) (place : List String) (entry : Entry) : Files :=
  { files with
    entries := (place, entry) :: files.entries.filter fun old => old.1 != place }

/-- The greatest count of bytes in a name. -/
def maxName : Nat := 255

/-- The first count of bytes that no path has. -/
def pathLimit : Nat := 4096

/-- A name or a path has too many bytes. -/
def nameTooLong : IoError := .os ⟨36, "File name too long"⟩

/-- A path contains the zero character. -/
def zeroInPath : IoError :=
  .described .other "file name contained an unexpected NUL byte"

/-- Whether a path ends with a slash. -/
def endsOpen (path : String) : Bool :=
  path.toList.getLast? == some '/'

/-- The names in a path.  A path that ends with a slash ends with the name for the
folder itself. -/
def names (path : String) : List String :=
  let parts := ((Text.split '/' path.toList).map String.ofList).filter fun part => part != ""
  if endsOpen path then parts ++ ["."] else parts

/-- Where names lead from a folder at `place`. -/
def walk (files : Files) : (place : List String) → List String → Except IoError Target
  | place, [] => .ok (.folder place)
  | place, name :: rest =>
    if name = "." then walk files place rest
    else if name = ".." then walk files place.dropLast rest
    else if maxName < name.utf8ByteSize then .error nameTooLong
    else
      match files.entry? (place ++ [name]), rest with
      | some .folder, rest => walk files (place ++ [name]) rest
      | some (.file content), [] => .ok (.file (place ++ [name]) content)
      | some (.file _), _ :: _ => .error (.os .notDirectory)
      | none, [] => .ok (.vacant (place ++ [name]))
      | none, _ :: _ => .error (.os .notFound)

/-- The place that a path starts from. -/
def start (files : Files) (path : String) : List String :=
  if path.toList.head? == some '/' then [] else files.current

/-- The check of a path without a look at the tree. -/
def checkPath (path : String) : Except IoError Unit :=
  if path = "" then .error (.os .notFound)
  else if path.toList.contains (Char.ofNat 0) then .error zeroInPath
  else if pathLimit ≤ path.utf8ByteSize then .error nameTooLong
  else .ok ()

/-- Where a path leads. -/
def target (files : Files) (path : String) : Except IoError Target := do
  checkPath path
  files.walk (files.start path) (names path)

/-- Whether something stands at a path. -/
def present (files : Files) (path : String) : Bool :=
  match files.target path with
  | .ok (.folder _) => true
  | .ok (.file _ _) => true
  | _ => false

/-- The content of the file at a path. -/
def read (files : Files) (path : String) : Except IoError Bytes :=
  match files.target path with
  | .error error => .error error
  | .ok (.folder _) => .error (.os .isDirectory)
  | .ok (.vacant _) => .error (.os .notFound)
  | .ok (.file _ content) => .ok content

/-- Where a path leads that a file is to be written at.  A path that ends with a slash
never leads to a file. -/
def writeTarget (files : Files) (path : String) : Except IoError Target := do
  checkPath path
  if endsOpen path then
    let parts := (names path).dropLast
    match ← files.walk (files.start path) parts.dropLast with
    | .folder place => return .folder place
    | .file _ _ => throw (.os .notDirectory)
    | .vacant _ => throw (.os .notFound)
  else files.walk (files.start path) (names path)

/-- The tree after a file was written at a path. -/
def write (files : Files) (path : String) (content : Bytes) : Except IoError Files :=
  match files.writeTarget path with
  | .error error => .error error
  | .ok (.folder _) => .error (.os .isDirectory)
  | .ok (.vacant place) => .ok (files.setEntry place (.file content))
  | .ok (.file place _) => .ok (files.setEntry place (.file content))

end Files

end CxlFirmware
