import Confine.Host.Files
import Confine.Host.Rlimits
import Confine.Host.Signal

/-!
The system calls of the host. A process asks for one call at a time and goes on from the reply.
-/

namespace Confine.Host

/-- Bindings that a program gets, in order. -/
abbrev Bindings := List (String × String)

inductive OpenMode where
  | reading
  /-- Made if it is missing, emptied if it is there. -/
  | writing
  /-- Made if it is missing; every write goes to the end. -/
  | appending
  /-- Made if it is missing. -/
  | both
deriving DecidableEq

/-- What a process asks for; `φ` is what a fork starts. Descriptors are numbered by the caller. -/
inductive Call (φ : Type) where
  /-- Nothing but processor time. -/
  | compute
  | read (fd max : Nat)
  | write (fd : Nat) (bytes : Bytes)
  | openPath (fd : Nat) (path : String) (mode : OpenMode)
  | duplicate (source target : Nat)
  | close (fd : Nat)
  | pipe (readEnd writeEnd : Nat)
  | fork (child : φ)
  /-- Becomes the first of the candidates that can be run. -/
  | execute (candidates args : List String) (env : Bindings)
  /-- Waits for the end of a child; without a number, of any child. -/
  | wait (pid : Option Nat)
  /-- Signals a process, or with a number below 1 the whole group. -/
  | signal (target : Int) (number : Nat)
  | arrange (number : Nat) (d : Disposition)
  /-- Sleeps for so many ticks. -/
  | sleep (ticks : Nat)
  | changeDir (path : String)
  | currentDir
  | getBound (r : Resource)
  | setBound (r : Resource) (b : Bound)
  | inspect (path : String)
  | list (path : String)
  /-- Takes away a file, or with `tree` a directory with all that is in it. -/
  | remove (path : String) (tree : Bool)
  | makeDir (path : String)
  | exit (status : Nat)

namespace Call

/-- The call with another child. -/
def mapFork (f : α → β) : Call α → Call β
  | compute => compute
  | read fd max => read fd max
  | write fd bytes => write fd bytes
  | openPath fd path mode => openPath fd path mode
  | duplicate source target => duplicate source target
  | close fd => close fd
  | pipe r w => pipe r w
  | fork child => fork (f child)
  | execute candidates args env => execute candidates args env
  | wait pid => wait pid
  | signal target number => signal target number
  | arrange number d => arrange number d
  | sleep ticks => sleep ticks
  | changeDir path => changeDir path
  | currentDir => currentDir
  | getBound r => getBound r
  | setBound r b => setBound r b
  | inspect path => inspect path
  | list path => list path
  | remove path tree => remove path tree
  | makeDir path => makeDir path
  | exit status => exit status

end Call

inductive Reply where
  | done
  /-- No bytes at the end of a file. -/
  | data (bytes : Bytes)
  | pid (n : Nat)
  | ended (pid : Nat) (raw : Int)
  | text (s : String)
  | bound (b : Bound)
  | node (n : Node)
  | names (names : List String)
  | failed (e : OsError)
  /-- A caught signal cut the wait short. -/
  | interrupted

/-- Ticks of the host's clock in a millisecond. -/
def ticksPerMilli : Nat := 100

/-- The descriptors from this one on are closed when a program is run. -/
def firstPrivate : Nat := 10

/-- The places where a program is looked for: a name with a slash stands for itself, and any other
is looked up in the directories of a search path. -/
def candidates (searchPath : Option String) (name : String) : List String :=
  if name = "" || name.toList.contains '/' then [name]
  else
    ((searchPath.getD "/bin:/usr/bin").splitOn ":").map fun dir =>
      if dir = "" then name else dir ++ "/" ++ name

end Confine.Host
