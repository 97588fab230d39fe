import Confine.Lifecycle
import Confine.Text.Quoted
import Confine.Text.Record

/-!
What can go wrong: errors of an engine and errors of a sandbox, with their messages and their
diagnostic forms.
-/

namespace Confine

namespace Termination

def diagnostic : Termination → String
  | exited code => Text.applied "Exited" [toString code]
  | signaled number => Text.applied "Signaled" [toString number]
  | spawnFailed => "SpawnFailed"

end Termination

namespace Lifecycle

def diagnostic : Lifecycle → String
  | idle => "Idle"
  | spawning => "Spawning"
  | running => "Running"
  | terminated t => Text.applied "Terminated" [t.diagnostic]

end Lifecycle

inductive EngineError where
  /-- The child could not be started, for the given reason. -/
  | spawn (reason : String)
  | notRunning
  | noRuntime
deriving DecidableEq

namespace EngineError

def message : EngineError → String
  | spawn reason => reason
  | notRunning => "no child process is running"
  | noRuntime => "engine requires a tokio runtime"

def diagnostic : EngineError → String
  | spawn reason => Text.applied "Spawn" [Text.quoted reason]
  | notRunning => "NotRunning"
  | noRuntime => "NoRuntime"

end EngineError

inductive SandboxError where
  /-- The operation does not fit the state. -/
  | invalidState (operation : String) (state : Lifecycle)
  /-- No reader is bound to the descriptor. -/
  | unknownDescriptor (fd : Int)
  | closedChannel
  | spawn (cause : EngineError)
deriving DecidableEq

namespace SandboxError

def message : SandboxError → String
  | invalidState operation state => "cannot " ++ operation ++ " while sandbox is " ++ state.name
  | unknownDescriptor fd => "engine reported data on unknown descriptor " ++ toString fd
  | closedChannel => "channel is closed"
  | spawn cause => "failed to spawn sandboxed program: " ++ cause.message

/-- The error behind this one. -/
def source? : SandboxError → Option EngineError
  | spawn cause => some cause
  | _ => none

def diagnostic : SandboxError → String
  | invalidState operation state =>
    Text.record "InvalidState"
      [("operation", Text.quoted operation), ("state", state.diagnostic)]
  | unknownDescriptor fd => Text.applied "UnknownDescriptor" [toString fd]
  | closedChannel => "ClosedChannel"
  | spawn cause => Text.applied "Spawn" [cause.diagnostic]

end SandboxError

end Confine
