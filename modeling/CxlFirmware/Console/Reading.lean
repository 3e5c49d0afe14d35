import CxlFirmware.Console.Level
import CxlFirmware.Console.Misuse
import CxlFirmware.Console.Word
import CxlFirmware.Environment

/-!
# Reading words

The words of one part of the command line are read from left to right.  An option
whose value is a word of its own, and an argument with a place, stay pending until the
next argument or the end, and are checked only then.
-/

namespace CxlFirmware.Console

/-- What ends the reading of a command line early. -/
inductive Stop where
  | misuse (misuse : Misuse)
  /-- The version was asked for. -/
  | version (level : Level)
  /-- The help was asked for by a letter or by the subcommand `help`. -/
  | help (level : Level)
  /-- The help on the subcommand `help` was asked for. -/
  | helpOnHelp
  /-- Nothing at all was given. -/
  | nothing
  deriving DecidableEq

/-- An argument whose value is still to be checked, or still to come. -/
structure Pending where
  argument : Argument
  value : Option String

/-- How far the words of a part have been read. -/
structure Reading where
  /-- The arguments so far, in the order in which they were given. -/
  choices : List Choice
  pending : Option Pending
  /-- The places that are still free. -/
  places : List Argument
  /-- Whether the separator was read. -/
  separated : Bool

namespace Reading

/-- The reading of a part before its first word. -/
def start (level : Level) : Reading where
  choices := []
  pending := none
  places := level.positionals
  separated := false

/-- Whether the next word is the value of an option, unless it is one itself. -/
def awaitsValue (reading : Reading) : Bool :=
  match reading.pending with
  | some ⟨_, none⟩ => !reading.separated
  | _ => false

/-- Whether the next word may be a subcommand. -/
def allowsSubcommand (reading : Reading) : Bool :=
  !reading.separated && !reading.awaitsValue

/-- The choices with the value of one more argument. -/
def choose (choices : List Choice) (argument : Argument) (word : String) :
    Except Misuse (List Choice) :=
  if 0 < Choice.count choices argument ∧ argument.kind ≠ .count then
    .error (.repeated argument)
  else
    match argument.kind.read word with
    | .error rejection => .error (.ofRejection argument word rejection)
    | .ok value => .ok (choices ++ [⟨argument, value⟩])

/-- The reading once nothing is pending. -/
def settle (reading : Reading) : Except Misuse Reading :=
  match reading.pending with
  | none => .ok reading
  | some ⟨argument, none⟩ => .error (.missingValue argument)
  | some ⟨argument, some word⟩ =>
    (choose reading.choices argument word).map fun choices =>
      { reading with choices, pending := none }

/-- The failure of a check, as a stop. -/
def checked {α : Type} : Except Misuse α → Except Stop α
  | .ok a => .ok a
  | .error misuse => .error (.misuse misuse)

/-- The reading after an argument that came with its value.  The value of an argument
that takes none is `true`. -/
def take (level : Level) (reading : Reading) (argument : Argument) (word : String) :
    Except Stop Reading := do
  let reading ← checked reading.settle
  match argument with
  | .help => throw (.help level)
  | .version => throw (.version level)
  | _ =>
    let choices ← checked (choose reading.choices argument word)
    return { reading with choices }

/-- The reading after an option whose value is to come. -/
def await (reading : Reading) (argument : Argument) : Except Stop Reading := do
  let reading ← checked reading.settle
  return { reading with pending := some ⟨argument, none⟩ }

/-- The reading after a long option. -/
def readLong (level : Level) (reading : Reading) (name : String) (value : Option String) :
    Except Stop Reading :=
  match level.ofLong? name, value with
  | none, _ => .error (.misuse (.unexpectedWord ("--" ++ name)))
  | some argument, some value =>
    if argument.kind.takesValue then reading.take level argument value
    else .error (.misuse (.unexpectedValue argument value))
  | some argument, none =>
    if argument.kind.takesValue then reading.await argument
    else reading.take level argument "true"

/-- The value that the letters behind that of an option make up, without an equality
sign in front. -/
def attached (letters : List Char) : String :=
  match letters with
  | '=' :: rest => String.ofList rest
  | letters => String.ofList letters

/-- The reading after the letters of a cluster. -/
def readCluster (level : Level) : Reading → (letters : List Char) → Except Stop Reading
  | reading, [] => .ok reading
  | reading, letter :: rest =>
    match level.ofLetter? letter with
    | none => .error (.misuse (.unexpectedWord (String.ofList ['-', letter])))
    | some argument =>
      if argument.kind.takesValue then
        if rest.isEmpty then reading.await argument
        else reading.take level argument (attached rest)
      else do readCluster level (← reading.take level argument "true") rest

/-- What a word is that no place is left for. -/
def misplaced (level : Level) (separated : Bool) (word : String) : Misuse :=
  match level with
  | .behind _ => .unexpectedWord word
  | .top =>
    if separated ∧ (word = "help" ∨ (Subcommand.ofName? word).isSome) then
      .unexpectedWord word
    else .unknownSubcommand word

/-- The reading after a word that is no option. -/
def readPlain (level : Level) (reading : Reading) (word : String) : Except Stop Reading :=
  match reading.pending, reading.awaitsValue with
  | some pending, true => .ok { reading with pending := some ⟨pending.argument, some word⟩ }
  | _, _ =>
    match reading.places with
    | [] => .error (.misuse (misplaced level reading.separated word))
    | argument :: places => do
      let reading ← checked reading.settle
      return { reading with pending := some ⟨argument, some word⟩, places }

/-- The reading after a word. -/
def readWord (level : Level) (reading : Reading) (word : String) : Except Stop Reading :=
  if reading.separated then reading.readPlain level word
  else
    match Word.ofText word with
    | .separator => .ok { reading with separated := true }
    | .long name value => reading.readLong level name value
    | .cluster letters => reading.readCluster level letters
    | .plain text => reading.readPlain level text

/-- The choices that variables make among `arguments`, apart from those that were
given. -/
def standIns (environment : Environment) (choices : List Choice) :
    List Argument → Except Misuse (List Choice)
  | [] => .ok []
  | argument :: rest =>
    match argument.variableName?.bind environment.value? with
    | some word =>
      if 0 < Choice.count choices argument then standIns environment choices rest
      else do return (← choose [] argument word) ++ (← standIns environment choices rest)
    | none => standIns environment choices rest

end Reading

/-- The arguments of a part. -/
structure Part where
  /-- What was given. -/
  given : List Choice
  /-- What variables stand in for. -/
  inherited : List Choice

/-- The arguments of a part that was read to its end. -/
def Reading.finish (environment : Environment) (level : Level) (reading : Reading) :
    Except Stop Part := do
  let reading ← checked reading.settle
  let inherited ← checked (standIns environment reading.choices level.arguments)
  return ⟨reading.choices, inherited⟩

/-- The arguments of the words of a part without a subcommand. -/
def Part.read (environment : Environment) (level : Level) (words : List String) :
    Except Stop Part := do
  (← words.foldlM (Reading.readWord level) (Reading.start level)).finish environment level

end CxlFirmware.Console
