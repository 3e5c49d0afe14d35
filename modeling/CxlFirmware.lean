import CxlFirmware.Main
import CxlFirmware.Proofs.Path
import CxlFirmware.Scenario
import CxlFirmware.Script
import CxlFirmware.Proofs.Inquiry
import CxlFirmware.Proofs.Judgement
import CxlFirmware.Proofs.Transfer.Course
import CxlFirmware.Proofs.Codec
import CxlFirmware.Proofs.Transfer.Carriage
import CxlFirmware.Proofs.Transfer.Groups
import CxlFirmware.Proofs.Transfer.Failure
import CxlFirmware.Proofs.Emulator.Reaction
import CxlFirmware.Proofs.Emulator.Staging
import CxlFirmware.Proofs.Emulator.History
import CxlFirmware.Proofs.Emulator.Integrity
import CxlFirmware.Proofs.Emulator.Agreement
import CxlFirmware.Proofs.Emulator.Effect
import CxlFirmware.Proofs.Emulator.Settled
import CxlFirmware.Proofs.Transfer.Cause
import CxlFirmware.Proofs.Emulator.Abandonment
import CxlFirmware.Proofs.Emulator.Atomicity
import CxlFirmware.Proofs.Emulator.AcceptedBlocks
import CxlFirmware.Proofs.Emulator.Slots
import CxlFirmware.Proofs.Emulator.Confinement
import CxlFirmware.Proofs.Emulator.Information
import CxlFirmware.Proofs.Reports
import CxlFirmware.Proofs.Transfer.Progress
import CxlFirmware.Proofs.Emulator.Mock
import CxlFirmware.Proofs.Emulator.Families
import CxlFirmware.Proofs.Parallel
import CxlFirmware.Proofs.Transfer.Families
import CxlFirmware.Proofs.Attempts
import CxlFirmware.Proofs.Emulator.Operation
import CxlFirmware.Proofs.Emulator.Percentages
import CxlFirmware.Proofs.Emulator.Results
import CxlFirmware.Proofs.Json
import CxlFirmware.Proofs.Emulator.StateFile
import CxlFirmware.Proofs.Json.Record
import CxlFirmware.Proofs.Emulator.StateFields
import CxlFirmware.Proofs.Files
import CxlFirmware.Proofs.Program
import CxlFirmware.Proofs.Console.Session
import CxlFirmware.Proofs.Activation
import CxlFirmware.Proofs.Settings
import CxlFirmware.Proofs.Settings.Layers
import CxlFirmware.Proofs.Console.Exits
import CxlFirmware.Proofs.Console.Commands
import CxlFirmware.Proofs.Replies
import CxlFirmware.Proofs.Retried
import CxlFirmware.Proofs.Polling
import CxlFirmware.Proofs.ActivationPhases
import CxlFirmware.Proofs.Transfer.Blocks
import CxlFirmware.Proofs.StatusLayout
import CxlFirmware.Proofs.Emulator.Activation
import CxlFirmware.Proofs.Transfer.Chronicle
import CxlFirmware.Proofs.Transfer.States
import CxlFirmware.Proofs.Transfer.Exhaustion
import CxlFirmware.Proofs.Exhaustion
import CxlFirmware.Proofs.RequestLayout
import CxlFirmware.Proofs.Revision
import CxlFirmware.Proofs.Emulator.Revisions
import CxlFirmware.Proofs.InfoLayout
import CxlFirmware.Proofs.Records
import CxlFirmware.Proofs.Claims
import CxlFirmware.Proofs.Budget
import CxlFirmware.Proofs.Console.DeviceNumber
