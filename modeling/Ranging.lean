import Ranging.Bench.Operation
import Ranging.Bench.ScriptedRadio
import Ranging.Bench.Transcript
import Ranging.Clock.Flight
import Ranging.Clock.Instant
import Ranging.Clock.Slot
import Ranging.Error
import Ranging.Frame.Basic
import Ranging.Frame.Bytes
import Ranging.Frame.Mask
import Ranging.Frame.Reader
import Ranging.Json.Codec
import Ranging.Json.Parser
import Ranging.Json.Printer
import Ranging.Json.Records
import Ranging.Json.Value
import Ranging.Log
import Ranging.Node.Config
import Ranging.Number.Bits
import Ranging.Number.Reading
import Ranging.Number.Scalar
import Ranging.Position.AnchorTable
import Ranging.Position.Basic
import Ranging.Position.Grid
import Ranging.Position.Quad
import Ranging.Position.Trilateration
import Ranging.Radio.Attempt
import Ranging.Radio.Carrier
import Ranging.Radio.Device
import Ranging.Radio.Program
import Ranging.Radio.Request
import Ranging.Radio.Scheme
import Ranging.Radio.Settings
import Ranging.Radio.Status
import Ranging.Radio.Wait
import Ranging.Session.Basic
import Ranging.Session.BringUp
import Ranging.Session.Exchange
import Ranging.Session.Initiator
import Ranging.Session.Reception
import Ranging.Session.Responder
import Ranging.Session.Serve
import Ranging.Text.Hex
import Ranging.Text.Hidden
import Ranging.Text.Named
import Ranging.Text.Quoted
import Ranging.Tracker.Basic
import Ranging.Tracker.Cadence
import Ranging.Tracker.Cycle
import Ranging.Tracker.FixQueue
import Ranging.Tracker.Location
import Ranging.Tracker.Publish
import Ranging.Proofs.Run.Events
import Ranging.Proofs.Run.Path
import Ranging.Proofs.Run.Radio
import Ranging.Proofs.Run.FailStop
import Ranging.Proofs.Run.Sequence
import Ranging.Proofs.Run.Time
import Ranging.Proofs.Run.Wait
import Ranging.Proofs.Run.Readings
import Ranging.Proofs.Frame.Template
import Ranging.Proofs.Session.Steps
import Ranging.Proofs.Session.Composition
import Ranging.Proofs.Session.Initiator
import Ranging.Proofs.Session.CleanUp
import Ranging.Proofs.Session.Distance
import Ranging.Proofs.Session.Responder
import Ranging.Proofs.Session.Reply
import Ranging.Proofs.Clock.Flight
import Ranging.Proofs.Session.EndToEnd
import Ranging.Proofs.Position.Determinant
import Ranging.Proofs.Position.Trilateration
import Ranging.Proofs.Position.Selection
import Ranging.Proofs.Session.Ending
import Ranging.Proofs.Tracker.Perform
import Ranging.Proofs.Tracker.History
import Ranging.Proofs.Tracker.Schedule
import Ranging.Proofs.Tracker.Timing
import Ranging.Proofs.Tracker.Delivery
import Ranging.Proofs.Session.Course
import Ranging.Proofs.Session.Numbering
import Ranging.Proofs.Run.Alike
import Ranging.Proofs.Session.Coupling
import Ranging.Proofs.Run.Translation
import Ranging.Proofs.Session.Origin
import Ranging.Proofs.Session.Contract
import Ranging.Proofs.Position.Motion
import Ranging.Proofs.Clock.Drift
import Ranging.Proofs.Session.Interval
import Ranging.Proofs.Clock.Modular
import Ranging.Proofs.Frame.Buffer
import Ranging.Proofs.Session.Causes
import Ranging.Proofs.Session.BringUp
import Ranging.Proofs.Session.Serving
import Ranging.Proofs.Clock.Range
import Ranging.Proofs.Tracker.InTime
import Ranging.Proofs.Clock.Slots
import Ranging.Proofs.Tracker.Location
import Ranging.Proofs.Json.Text
import Ranging.Proofs.Json.Distinct
import Ranging.Proofs.Json.Record
import Ranging.Proofs.Json.Config
