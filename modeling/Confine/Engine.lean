import Confine.Reader
import Confine.SpawnOptions

/-!
The vocabulary between a sandbox and the engine that owns the child: what an engine reports and what
it is asked to do.
-/

namespace Confine

/-- The output descriptors that have a reader. -/
inductive Stream where
  | stdout
  | stderr
deriving DecidableEq

namespace Stream

def fd : Stream → Int
  | stdout => 1
  | stderr => 2

/-- The stream of a descriptor, if it has a reader. -/
def ofFd? (fd : Int) : Option Stream :=
  if fd = 1 then some stdout else if fd = 2 then some stderr else none

end Stream

inductive EngineEvent where
  /-- The child wrote to a descriptor. -/
  | data (fd : Int) (bytes : Bytes)
  | exit (status : Int)
  | signal (number : Int)
  /-- The child made a socket at a path. -/
  | newSocket (path : String)
deriving DecidableEq

/-- What an engine gets for a spawn. The path mapping is the sandbox's own slot. -/
structure SpawnRequest where
  options : SpawnOptions
  /-- Keep a crashed child for a debugger. -/
  debugOnCrash : Bool
deriving DecidableEq

/-- What a sandbox asks of its engine. -/
inductive EngineCall where
  | spawn (request : SpawnRequest)
  | kill
  | writeStdin (bytes : Bytes)
  | closeStdin
deriving DecidableEq

end Confine
