import CxlFirmware.Duration
import CxlFirmware.Fault
import CxlFirmware.Files
import CxlFirmware.Log
import CxlFirmware.Workflow

/-!
# Programs

A program reads and writes files, writes text and log records, and waits.  `run` is
its meaning on a tree of files; the command line gives the same programs to the
operating system.
-/

namespace CxlFirmware

/-- What a program lets out. -/
inductive Output where
  /-- A text to the standard output. -/
  | result (text : String)
  /-- A text to the standard error. -/
  | notice (text : String)
  | record (record : LogRecord)
  | pause (duration : Duration)
  deriving DecidableEq

/-- A computation that uses files. -/
inductive Program (α : Type) where
  | done (value : α)
  | crash (fault : Fault)
  | present (path : String) (next : Bool → Program α)
  | read (path : String) (next : Except IoError Bytes → Program α)
  | write (path : String) (content : Bytes) (next : Except IoError Unit → Program α)
  | emit (output : Output) (next : Program α)

/-- What the run of a program leaves behind. -/
structure Outcome (α : Type) where
  result : Except Fault α
  files : Files
  outputs : List Output

namespace Program

variable {α β : Type}

/-- One program after another. -/
protected def bind (program : Program α) (next : α → Program β) : Program β :=
  match program with
  | done value => next value
  | crash fault => crash fault
  | present path rest => present path fun found => (rest found).bind next
  | read path rest => read path fun content => (rest content).bind next
  | write path content rest => write path content fun result => (rest result).bind next
  | emit output rest => emit output (rest.bind next)

instance : Monad Program where
  pure := done
  bind := Program.bind

/-- The meaning of a program on a tree of files. -/
def run : Program α → Files → Outcome α
  | done value, files => ⟨.ok value, files, []⟩
  | crash fault, files => ⟨.error fault, files, []⟩
  | present path next, files => (next (files.present path)).run files
  | read path next, files => (next (files.read path)).run files
  | write path content next, files =>
    match files.write path content with
    | .error error => (next (.error error)).run files
    | .ok files => (next (.ok ())).run files
  | emit output next, files =>
    let rest := next.run files
    { rest with outputs := output :: rest.outputs }

/-- The program that asks whether something stands at a path. -/
def isPresent (path : String) : Program Bool :=
  present path done

/-- The program that reads a file. -/
def readFile (path : String) : Program (Except IoError Bytes) :=
  read path done

/-- The program that writes a file. -/
def writeFile (path : String) (content : Bytes) : Program (Except IoError Unit) :=
  write path content done

/-- The program that lets something out. -/
def put (output : Output) : Program Unit :=
  emit output (done ())

/-- The program that writes a line to the standard output. -/
def printLine (text : String) : Program Unit :=
  put (.result (text ++ "\n"))

/-- The program that writes a line to the standard error. -/
def notifyLine (text : String) : Program Unit :=
  put (.notice (text ++ "\n"))

/-- The program that writes a log record. -/
def log (level : LogLevel) (origin message : String) : Program Unit :=
  put (.record ⟨level, origin, message⟩)

/-- The program that lets out the records and the pauses of a workflow. -/
def replay : List Event → Program Unit
  | [] => done ()
  | .logged record :: rest => emit (.record record) (replay rest)
  | .slept duration :: rest => emit (.pause duration) (replay rest)
  | .exchanged .. :: rest => replay rest
  | .progressed _ :: rest => replay rest

/-- The program that carries out a workflow, with the mailbox afterwards. -/
def ofWorkflow {σ : Type} (workflow : Workflow σ α) (mailbox : σ) : Program (α × σ) := do
  let run := workflow mailbox
  replay run.events
  match run.result with
  | .error fault => crash fault
  | .ok value => done (value, run.mailbox)

end Program

end CxlFirmware
