/-!
# Input and output failures

Why an exchange with the operating system or with a transport failed, and the text
of each reason.
-/

namespace CxlFirmware

/-- A failure that the operating system reports. -/
structure OsError where
  /-- The number of the failure. -/
  number : Nat
  /-- The system's description of it. -/
  description : String
  deriving DecidableEq, Repr

namespace OsError

/-- The path names nothing. -/
def notFound : OsError := ⟨2, "No such file or directory"⟩

/-- The path leads through something that is not a directory. -/
def notDirectory : OsError := ⟨20, "Not a directory"⟩

/-- The path names a directory where a file is needed. -/
def isDirectory : OsError := ⟨21, "Is a directory"⟩

/-- The description with the number. -/
def text (e : OsError) : String :=
  e.description ++ " (os error " ++ Nat.repr e.number ++ ")"

end OsError

/-- The kind of a failure without a number of the operating system. -/
inductive IoKind where
  | timedOut
  | notFound
  | permissionDenied
  | brokenPipe
  | unexpectedEof
  | interrupted
  | other
  deriving DecidableEq, Repr

/-- The description of a kind. -/
def IoKind.text : IoKind → String
  | timedOut => "timed out"
  | notFound => "entity not found"
  | permissionDenied => "permission denied"
  | brokenPipe => "broken pipe"
  | unexpectedEof => "unexpected end of file"
  | interrupted => "operation interrupted"
  | other => "other error"

/-- A failed exchange. -/
inductive IoError where
  /-- The operating system refused. -/
  | os (error : OsError)
  /-- A failure known by its kind alone. -/
  | plain (kind : IoKind)
  /-- A failure of some kind with a message of its own. -/
  | described (kind : IoKind) (message : String)
  deriving DecidableEq, Repr

/-- The text of a failure: its own message, or the description of its kind. -/
def IoError.text : IoError → String
  | os error => error.text
  | plain kind => kind.text
  | described _ message => message

end CxlFirmware
