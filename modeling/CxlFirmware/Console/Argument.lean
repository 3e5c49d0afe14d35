import CxlFirmware.Activation
import CxlFirmware.Console.Shell
import CxlFirmware.Text.Decimal

/-!
# Arguments

What can be given on the command line.  Each argument has its names and a kind, which
says whether it takes a value and how the value is read; `Choice` is an argument with a
value that was read.
-/

namespace CxlFirmware.Console

/-! ## Kinds -/

/-- A kind of argument. -/
inductive Kind where
  /-- Given or not. -/
  | flag
  /-- Given any number of times. -/
  | count
  | text
  /-- A text that is not empty. -/
  | path
  | slot
  | action
  | shell
  deriving DecidableEq

/-- Why a value was turned away. -/
inductive Rejection where
  /-- An empty value counts as none. -/
  | missing
  | invalid (reason : Option String)
  deriving DecidableEq

namespace Kind

/-- The values of a kind. -/
abbrev Value : Kind → Type
  | flag => Bool
  | count => Bool
  | text => String
  | path => String
  | slot => UInt8
  | action => Activation.Action
  | shell => Shell

/-- Whether arguments of a kind take a value. -/
def takesValue : Kind → Bool
  | flag | count => false
  | text | path | slot | action | shell => true

/-- The truth value that a word denotes. -/
def readFlag (word : String) : Except Rejection Bool :=
  if word = "true" then .ok true
  else if word = "false" then .ok false
  else if word = "" then .error .missing
  else .error (.invalid none)

/-- The slot that a word denotes. -/
def readSlot (word : String) : Except Rejection UInt8 :=
  match Text.integer word with
  | .error reason => .error (.invalid (some reason.text))
  | .ok n =>
    if 0 ≤ n ∧ n < 256 then .ok (UInt8.ofNat n.toNat)
    else .error (.invalid (some (n.repr ++ " is not in 0..=255")))

/-- The action that a word denotes. -/
def readAction (word : String) : Except Rejection Activation.Action :=
  match Activation.Action.parse word with
  | .error error => .error (.invalid (some error.message))
  | .ok chosen => .ok chosen

/-- The shell that a word denotes. -/
def readShell (word : String) : Except Rejection Shell :=
  if word = "" then .error .missing
  else
    match Shell.ofName? word with
    | none => .error (.invalid none)
    | some chosen => .ok chosen

/-- The value of a kind that a word denotes. -/
def read : (kind : Kind) → (word : String) → Except Rejection kind.Value
  | flag, word => readFlag word
  | count, word => readFlag word
  | text, word => .ok word
  | path, word => if word = "" then .error .missing else .ok word
  | slot, word => readSlot word
  | action, word => readAction word
  | shell, word => readShell word

end Kind

/-! ## Arguments -/

/-- An argument of the command line. -/
inductive Argument where
  | device
  | emulatorState
  | config
  | language
  | verbose
  | quiet
  | nonInteractive
  | help
  | version
  | image
  | slot
  | hbo
  | osImage
  | mock
  | action
  | confirmed
  | json
  | shell
  deriving DecidableEq, Repr

namespace Argument

/-- The kind of an argument. -/
def kind : Argument → Kind
  | device => .text
  | emulatorState => .path
  | config => .path
  | language => .text
  | verbose => .count
  | image => .path
  | slot => .slot
  | action => .action
  | shell => .shell
  | quiet | nonInteractive | help | version | hbo | osImage | mock | confirmed | json => .flag

/-- The name after two dashes. -/
def long? : Argument → Option String
  | device => some "device"
  | emulatorState => some "emulator-state"
  | config => some "config"
  | language => some "lang"
  | verbose => some "verbose"
  | quiet => some "quiet"
  | nonInteractive => some "non-interactive"
  | help => some "help"
  | version => some "version"
  | slot => some "slot"
  | hbo => some "hbo"
  | osImage => some "os"
  | mock => some "mock"
  | action => some "action"
  | confirmed => some "yes"
  | json => some "json"
  | image | shell => none

/-- The letter after one dash. -/
def letter? : Argument → Option Char
  | device => some 'd'
  | verbose => some 'v'
  | quiet => some 'q'
  | help => some 'h'
  | version => some 'V'
  | slot => some 's'
  | action => some 'a'
  | confirmed => some 'y'
  | _ => none

/-- Whether an argument has no name but a place of its own. -/
def isPositional (argument : Argument) : Bool :=
  argument.long? == none

/-- The variable that stands in for an argument that is not given. -/
def variableName? : Argument → Option String
  | device => some "CXLFW_DEVICE"
  | emulatorState => some "CXLFW_EMULATOR_STATE"
  | language => some "CXLFW_LANG"
  | nonInteractive => some "CXLFW_NON_INTERACTIVE"
  | _ => none

/-- What stands for the value of an argument in a text. -/
def placeholder : Argument → String
  | device => " <DEVICE>"
  | emulatorState | config => " <PATH>"
  | language => " <LANG>"
  | slot => " <SLOT>"
  | action => " <ACTION>"
  | image => "<IMAGE>"
  | shell => "[SHELL]"
  | verbose => "..."
  | _ => ""

/-- An argument as it is named in a text. -/
def text (argument : Argument) : String :=
  match argument.long? with
  | none => argument.placeholder
  | some name => "--" ++ name ++ argument.placeholder

end Argument

/-! ## Choices -/

/-- An argument with a value. -/
structure Choice where
  argument : Argument
  value : argument.kind.Value

namespace Choice

/-- The value of a choice of `argument`. -/
def value? (argument : Argument) (choice : Choice) : Option argument.kind.Value :=
  if h : choice.argument = argument then some (h ▸ choice.value) else none

/-- The value of the first choice of `argument` in a list. -/
def find? (choices : List Choice) (argument : Argument) : Option argument.kind.Value :=
  choices.findSome? (value? argument)

/-- The count of choices of `argument` in a list. -/
def count (choices : List Choice) (argument : Argument) : Nat :=
  (choices.filter fun choice => choice.argument == argument).length

end Choice

end CxlFirmware.Console
