import CxlFirmware.Activation
import CxlFirmware.Device
import CxlFirmware.Transfer.Sequence

/-!
# Scenarios

A scenario is a list of steps on one device: claims, single commands, jobs that
each claim the device for themselves, sessions of several jobs under one claim, and
changes of the gate in between.  `run` gives a report of every step, with the
events that happened in it.
-/

namespace CxlFirmware.Scenario

variable {σ : Type}

/-- A workflow that needs a claimed device. -/
inductive Job where
  | transfer (config : Transfer.Config) (image : Image)
  | activate (policy : RetryPolicy) (request : Activation.Request)
  | info
  | background (query : StatusQuery)
  | name

/-- What a job returns. -/
inductive JobResult where
  | transfer (outcome : Transfer.Outcome)
  | status (report : BackgroundStatus)
  | info (info : FirmwareInfo)
  | name (name : String)

/-- The workflow of a job. -/
def Job.run (device : Device σ) : Job → Workflow σ (Except Error JobResult)
  | transfer config image => do
    return (← Transfer.run device.transport device.name config image).map .transfer
  | activate policy request => do
    return (← Activation.run device.transport device.name policy request).map .status
  | info => do return (← device.firmwareInfo).map .info
  | background query => do
    return (← Poll.queryStatus device.transport query).map .status
  | name => return .ok (.name device.name)

/-- A step inside a session. -/
inductive Item where
  | job (job : Job)
  /-- A job that could not be set up. -/
  | refused (error : Error)
  | setActive (active : Bool)
  | setUnreadable (unreadable : Bool)
  | setReading (reading : Except Error Bool)

/-- A step of a scenario. -/
inductive Step where
  /-- Look at the device. -/
  | describe
  /-- Claim the device and release it at once. -/
  | claim
  /-- Change the gate, or run a job under a claim of its own. -/
  | item (item : Item)
  /-- Send one command of this library. -/
  | submit (opcode : Opcode) (payload : Bytes)
  /-- Send any command and look at the bare answer. -/
  | raw (command : Command)
  /-- Ask for the background status once. -/
  | query (query : StatusQuery)
  /-- Poll until the background operation has ended. -/
  | poll (query : StatusQuery) (policy : RetryPolicy)
  /-- Run several items under one claim. -/
  | session (items : List Item)

/-- What an item gives. -/
inductive ItemResult where
  | job (result : Except Error JobResult)
  /-- The device could not be claimed, or the job not be set up. -/
  | refused (error : Error)
  | gateSet

/-- What happened in an item. -/
structure ItemReport where
  result : ItemResult
  events : List Event

/-- What a step gives. -/
inductive StepResult where
  | described (active : Except Error Bool)
  | claimed (result : Except Error Unit)
  | item (result : ItemResult)
  | submitted (result : Except Error Bytes)
  | answered (receipt : Receipt)
  | status (result : Except Error BackgroundStatus)
  | session (reports : List ItemReport)
  | refused (error : Error)

/-- What happened in a step, with the mailbox afterwards. -/
structure Report (σ : Type) where
  result : StepResult
  events : List Event
  mailbox : σ

/-- The gate after an item. -/
def Item.gate (gate : Gate) : Item → Gate
  | setActive active => gate.setActive active
  | setUnreadable unreadable => gate.setUnreadable unreadable
  | setReading reading => gate.setReading reading
  | job _ | refused _ => gate

/-- The workflow of an item under a claim that is already held. -/
def Item.work (device : Device σ) : Item → Workflow σ ItemResult
  | .job work => do return .job (← work.run device)
  | .refused error => return .refused error
  | .setActive _ | .setUnreadable _ | .setReading _ => return .gateSet

/-- The workflow of an item under a claim of its own. -/
def Item.alone (device : Device σ) : Item → Workflow σ ItemResult
  | .job work => do
    match ← device.claim with
    | .error error => return .refused error
    | .ok () =>
      let result ← work.run device
      device.release
      return .job result
  | item => item.work device

/-- The reports of items under one claim, the mailbox and the gate after them.  The
events of `before` belong to the first item. -/
def runItems (device : Device σ) :
    (before : List Event) → List Item → σ → Except Fault (List ItemReport × σ × Gate)
  | _, [], mailbox => .ok ([], mailbox, device.gate)
  | before, item :: rest, mailbox =>
    match item.work device mailbox with
    | ⟨.error fault, _, _⟩ => .error fault
    | ⟨.ok result, mailbox, events⟩ =>
      match runItems { device with gate := item.gate device.gate } [] rest mailbox with
      | .error fault => .error fault
      | .ok (reports, after) => .ok (⟨result, before ++ events⟩ :: reports, after)

/-- The report of a workflow. -/
def report (gate : Gate) (work : Workflow σ StepResult) (mailbox : σ) :
    Except Fault (Report σ × Gate) :=
  match work mailbox with
  | ⟨.error fault, _, _⟩ => .error fault
  | ⟨.ok result, mailbox, events⟩ => .ok (⟨result, events, mailbox⟩, gate)

/-- The events before the first item of a session, if no item takes them over. -/
def unclaimedEvents (events : List Event) : List Item → List Event
  | [] => events
  | _ :: _ => []

/-- The report of a session. -/
def runSession (device : Device σ) (items : List Item) (mailbox : σ) :
    Except Fault (Report σ × Gate) :=
  match device.claim mailbox with
  | ⟨.error fault, _, _⟩ => .error fault
  | ⟨.ok (.error error), mailbox, events⟩ =>
    .ok (⟨.refused error, events, mailbox⟩, device.gate)
  | ⟨.ok (.ok ()), mailbox, before⟩ =>
    match runItems device before items mailbox with
    | .error fault => .error fault
    | .ok (reports, mailbox, gate) =>
      let last := device.release mailbox
      .ok (⟨.session reports, unclaimedEvents before items ++ last.events, last.mailbox⟩, gate)

/-- The report of a step, and the gate after it. -/
def runStep (device : Device σ) : Step → σ → Except Fault (Report σ × Gate)
  | .describe => report device.gate (pure (.described device.gate.isActive))
  | .claim => report device.gate do return .claimed (← device.claimed (pure (.ok ())))
  | .item item => report (item.gate device.gate) do return .item (← item.alone device)
  | .submit opcode payload => report device.gate do
    return .submitted (← Mailbox.submit device.transport opcode payload)
  | .raw command => report device.gate do
    return .answered (← Workflow.exchange device.transport command)
  | .query query => report device.gate do
    return .status (← Poll.queryStatus device.transport query)
  | .poll query policy => report device.gate do
    return .status (← Poll.untilDone device.transport query policy)
  | .session items => runSession device items

/-- The reports of all steps. -/
def run (device : Device σ) : List Step → σ → Except Fault (List (Report σ))
  | [], _ => .ok []
  | step :: rest, mailbox =>
    match runStep device step mailbox with
    | .error fault => .error fault
    | .ok (report, gate) =>
      match run { device with gate } rest report.mailbox with
      | .error fault => .error fault
      | .ok reports => .ok (report :: reports)

end CxlFirmware.Scenario
