import CxlFirmware.Toml.Basic

/-!
# Building tables of TOML

A table grows by dotted keys and by headers.  Both find their way through the tables
on their path, and make those that are missing; neither may add to a table that was
closed, and a dotted key adds only to tables that dotted keys have made.
-/

namespace CxlFirmware.Toml

/-- The members with a value for a new key.  Nothing changes the value of a key. -/
def insertNew (key : String) (value : Toml) (members : Members) : Option Members :=
  match lookup key members with
  | none => some (insert key value members)
  | some _ => none

/-- The members with a value for a dotted key: `path` before its last part `key`.
`made` says whether the members are those of a table that a dotted key has made. -/
def insertDotted (made : Bool) (key : String) (value : Toml) :
    (path : List String) → Members → Option Members
  | [], members => if made then insertNew key value members else none
  | part :: path, members =>
    match lookup part members with
    | none => do
      let inner ← insertDotted true key value path []
      return insert part (.table .dotted inner) members
    | some (.table .dotted old) => do
      let inner ← insertDotted true key value path old
      return insert part (.table .dotted inner) members
    | some (.table .implied old) => do
      let inner ← insertDotted false key value path old
      return insert part (.table .implied inner) members
    | some (.tables (last :: earlier)) => do
      let inner ← insertDotted false key value path last
      return insert part (.tables (inner :: earlier)) members
    | some _ => none

/-- A dotted key with its value. -/
structure Entry where
  /-- The parts of the key before the last one. -/
  path : List String
  /-- The last part of the key. -/
  key : String
  value : Toml

/-- The members with one more entry. -/
def addEntry (members : Members) (entry : Entry) : Option Members :=
  match entry.path with
  | [] => insertNew entry.key entry.value members
  | path => insertDotted false entry.key entry.value path members

/-- The members with more entries. -/
def addEntries (members : Members) (entries : List Entry) : Option Members :=
  entries.foldlM addEntry members

/-- The members after a change to the table that a path of headers leads to. -/
def changeAt (change : Members → Option Members) :
    (path : List String) → Members → Option Members
  | [], members => change members
  | part :: path, members =>
    match lookup part members with
    | none => do
      let inner ← changeAt change path []
      return insert part (.table .implied inner) members
    | some (.table .closed _) => none
    | some (.table origin old) => do
      let inner ← changeAt change path old
      return insert part (.table origin inner) members
    | some (.tables (last :: earlier)) => do
      let inner ← changeAt change path last
      return insert part (.tables (inner :: earlier)) members
    | some _ => none

/-- The members with the table of a header, which has `entries`. -/
def openTable (key : String) (entries : List Entry) (members : Members) : Option Members :=
  match lookup key members with
  | none => do
    let inner ← addEntries [] entries
    return insert key (.table .header inner) members
  | some (.table .implied old) => do
    let inner ← addEntries old entries
    return insert key (.table .header inner) members
  | some _ => none

/-- The members with one more table of a header in double brackets, which has
`entries`. -/
def openElement (key : String) (entries : List Entry) (members : Members) : Option Members :=
  match lookup key members with
  | none => do
    let inner ← addEntries [] entries
    return insert key (.tables [inner]) members
  | some (.tables earlier) => do
    let inner ← addEntries [] entries
    return insert key (.tables (inner :: earlier)) members
  | some _ => none

end CxlFirmware.Toml
