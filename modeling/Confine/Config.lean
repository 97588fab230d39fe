import Confine.Policy

/-!
The configuration of a sandbox and of the limits on its child.
-/

namespace Confine

/-- Resource limits; a missing one is no limit. -/
structure Limits where
  cpuTimeMs : Option Nat := none
  /-- The time after which the child is killed. -/
  wallTimeMs : Option Nat := none
  memoryMb : Option Nat := none
  processes : Option Nat := none
  openFiles : Option Nat := some 256
  fsizeKb : Option Nat := some 262144
deriving DecidableEq

structure Config where
  /-- Keep a crashed child for a debugger. -/
  debugOnCrash : Bool := false
  /-- The policy of both output readers. -/
  outputBuffer : BufferPolicy := .unbounded
  /-- Buffered bytes from which a reader wants no more. -/
  highWaterMark : Nat := 16384
  /-- The capacity of the channels for data notices and faults. -/
  eventCapacity : Nat := 256
  /-- The directory of the child, before the path mapping. -/
  workingDir : Option String := none
  limits : Limits := {}
deriving DecidableEq

namespace Config

def withOutputBuffer (c : Config) (policy : BufferPolicy) : Config :=
  { c with outputBuffer := policy }

def withDebugOnCrash (c : Config) (value : Bool) : Config := { c with debugOnCrash := value }

end Config

/-- The configuration of a process, which can be set once. -/
structure ConfigSlot where
  value : Option Config := none

namespace ConfigSlot

/-- Why setting a slot fails. -/
def alreadySet : String := "Sandbox configuration already initialized"

/-- Sets the configuration unless it is set. -/
def init (s : ConfigSlot) (config : Config) : Except String ConfigSlot :=
  match s.value with
  | none => .ok ⟨some config⟩
  | some _ => .error alreadySet

/-- The configuration, or the default one while none is set. -/
def get (s : ConfigSlot) : Config := s.value.getD {}

end ConfigSlot

end Confine
