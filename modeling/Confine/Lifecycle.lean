/-!
The states of a sandbox, the ways in which its child ends, and the events that announce them.
States move forward only: idle, spawning, running, terminated.
-/

namespace Confine

/-- How a child ended. -/
inductive Termination where
  | exited (code : Int)
  | signaled (number : Int)
  /-- The engine could not start the child. -/
  | spawnFailed
deriving DecidableEq

/-- What a sandbox announces, in the order in which the engine reports it. -/
inductive LifecycleEvent where
  | started
  | newSocket (path : String)
  | exit (status : Int)
  | signal (number : Int)
deriving DecidableEq

namespace Termination

/-- The exit code that a shell would show for this end. -/
def exitCode : Termination → Int
  | exited code => code
  | signaled number => 128 + number
  | spawnFailed => 127

/-- The event that announces this end; none if the child never ran. -/
def event? : Termination → Option LifecycleEvent
  | exited code => some (.exit code)
  | signaled number => some (.signal number)
  | spawnFailed => none

end Termination

inductive Lifecycle where
  | idle
  /-- The engine is being asked to start the child. -/
  | spawning
  | running
  | terminated (termination : Termination)
deriving DecidableEq

namespace Lifecycle

/-- The word for a state in messages. -/
def name : Lifecycle → String
  | idle => "idle"
  | spawning => "spawning"
  | running => "running"
  | terminated _ => "terminated"

def isRunning : Lifecycle → Bool
  | running => true
  | _ => false

def isTerminated : Lifecycle → Bool
  | terminated _ => true
  | _ => false

def termination? : Lifecycle → Option Termination
  | terminated t => some t
  | _ => none

/-- The state after the first end of a running child; nothing else can end. -/
def terminate? (t : Termination) : Lifecycle → Option Lifecycle
  | running => some (terminated t)
  | _ => none

end Lifecycle

end Confine
