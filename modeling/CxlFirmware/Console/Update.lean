import CxlFirmware.Console.Session
import CxlFirmware.Transfer.Sequence

/-!
# Updates

The job that transfers the content of a file to a slot, or to the operating system
image of the device.  The settings are checked before the file is read, and the file
before the device is opened.
-/

namespace CxlFirmware.Console.Update

/-- Where the log records about image files come from. -/
def imageOrigin : String := "cxlfw::image"

/-- Where the log records of this module come from. -/
def origin : String := "cxlfw::commands::update"

/-- The parameters of an update. -/
def configOf (setup : Setup) (slot : UInt8) (hbo osImage mock : Bool) :
    Except Error Transfer.Config := do
  let kind ← Transfer.Kind.ofFlags hbo osImage
  let config := setup.settings.transferConfig kind slot mock
  config.validate
  return config

/-- The program that reads an image from a file. -/
def loadImage (path : String) : Fallible Image := do
  Program.log .debug imageOrigin ("Loading firmware image from: " ++ path)
  let image ← orFail (.loadImageFailed path) (Image.ofFile path (← Program.readFile path))
  Program.log .debug imageOrigin ("Firmware image: " ++ Nat.repr image.size ++ " bytes")
  return image

/-- The message before a transfer. -/
def announcement (setup : Setup) (config : Transfer.Config) (image : Image) (blocks : Nat) :
    Message :=
  match config.kind with
  | .osImage => .transferringOsImage image.size blocks setup.deviceName
  | _ => .transferringToSlot config.slot image.size blocks setup.deviceName

/-- The program that announces a transfer. -/
def announce (setup : Setup) (config : Transfer.Config) (image : Image) : Program Unit :=
  if setup.quiet then return ()
  else
    match image.blockCount config.blockSize with
    | .error fault => .crash fault
    | .ok blocks => setup.say "⏳" (announcement setup config image blocks)

/-- The program that tells how a transfer ended. -/
def conclude (setup : Setup) : Transfer.Outcome → Program Unit
  | .completed blocks bytes => setup.say "\n✓" (.transferCompleted blocks bytes)
  | .mockAborted abortError => do
    match abortError with
    | none => pure ()
    | some error =>
      Program.log .warn origin ((Message.mockAbortFailed error).text setup.language)
    setup.say "\n✓" .mockCompleted

/-- The job that transfers the image in a file. -/
def run (setup : Setup) (path : String) (slot : UInt8) (hbo osImage mock : Bool) :
    Fallible Unit := do
  match configOf setup slot hbo osImage mock with
  | .error error => throw (.firmware none error)
  | .ok config =>
    setup.say "📦" (.loadingImage path)
    let image ← loadImage path
    let session ← Session.start setup
    announce setup config image
    let (result, session) ← session.claimed
      (Transfer.run session.device.transport session.device.name config image)
    let outcome ← orFail .transferFailed (← session.saveAfter setup.language result)
    conclude setup outcome

end CxlFirmware.Console.Update
