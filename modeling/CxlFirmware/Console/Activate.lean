import CxlFirmware.Console.Session

/-!
# Activating a slot

The job that makes a slot run at once or after the next reset.  It has to be confirmed
on the command line.
-/

namespace CxlFirmware.Console.Activate

/-- The request for a slot. -/
def requestOf (slot : UInt8) (action : Activation.Action) (hbo : Bool) :
    Activation.Request where
  kind := if hbo then .vendorBackground else .specDefined
  action
  slot

/-- The job that activates a slot. -/
def run (setup : Setup) (slot : UInt8) (action : Activation.Action) (hbo confirmed : Bool) :
    Fallible Unit := do
  if confirmed then
    let session ← Session.start setup
    setup.say "⏳" (.activating slot action setup.deviceName)
    let (result, session) ← session.claimed (Activation.run session.device.transport
      session.device.name setup.settings.activationPolicy (requestOf slot action hbo))
    let _ ← orFail (.activateFailed slot) (← session.saveAfter setup.language result)
    setup.say "✓" (.activated slot action)
  else throw (.usage .confirmationNeeded)

end CxlFirmware.Console.Activate
