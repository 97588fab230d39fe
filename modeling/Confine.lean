import Confine.Main
import Confine.Session.Script
import Confine.Proofs.Reader.Accounting
import Confine.Proofs.Reader.Waking
import Confine.Proofs.Event.Record
import Confine.Proofs.Event.Lossless
import Confine.Proofs.Sandbox.Course
import Confine.Proofs.Sandbox.Reports
import Confine.Proofs.Sandbox.Replay
import Confine.Proofs.Sandbox.History
import Confine.Proofs.Sandbox.Consistency
import Confine.Proofs.Sandbox.Story
import Confine.Proofs.Sandbox.Integrity
import Confine.Proofs.Sandbox.Postponement
import Confine.Proofs.Sandbox.Calls
import Confine.Proofs.Sandbox.Stdin
import Confine.Proofs.Sandbox.Refusals
import Confine.Proofs.Sandbox.Publishing
import Confine.Proofs.Sandbox.FailedSpawn
import Confine.Proofs.Sandbox.Separation
import Confine.Proofs.Session.Course
import Confine.Proofs.Session.Answers
import Confine.Proofs.Pump.Pipe
import Confine.Proofs.Pump.Turn
import Confine.Proofs.Pump.Copying
import Confine.Proofs.Pump.Progress
import Confine.Proofs.Native.Watch
import Confine.Proofs.Native.Child
import Confine.Proofs.Text.Decimal
import Confine.Proofs.Json.RoundTrip
import Confine.Proofs.Data.RoundTrip
import Confine.Proofs.Reader.Queue
import Confine.Proofs.Reader.Chunking
import Confine.Proofs.Sandbox.Advice
import Confine.Proofs.Pump.Backlog
import Confine.Proofs.Config.Settings
import Confine.Proofs.Config.Defaults
import Confine.Proofs.Config.Capacity
import Confine.Proofs.Native.Line
import Confine.Proofs.Native.ExitCode
import Confine.Proofs.Native.Limits
import Confine.Proofs.PathMapping.Rooting
import Confine.Proofs.Sandbox.Dropping
