import Confine.Host.Octets
import Confine.RlimitPlan

/-!
The resource limits of a process: for each resource a soft and a hard bound. They can be listed as
a table with one line for each resource.
-/

namespace Confine.Host

inductive Resource where
  | cpuTime
  | fileSize
  | dataSize
  | stackSize
  | coreSize
  | residentSet
  | processes
  | openFiles
  | lockedMemory
  | addressSpace
  | fileLocks
  | pendingSignals
  | messageQueues
  | nicePriority
  | realtimePriority
  | realtimeTimeout
deriving DecidableEq

/-- A soft and a hard bound; a missing one is no bound. -/
structure Bound where
  soft : Option Nat
  hard : Option Nat
deriving DecidableEq

namespace Bound

def both (n : Nat) : Bound := ⟨some n, some n⟩

def unlimited : Bound := ⟨none, none⟩

end Bound

/-- The bounds of every resource, in the order of the table. -/
abbrev Rlimits := List (Resource × Bound)

namespace Rlimits

/-- The bounds that a child has if it is given no others. -/
def inherited : Rlimits :=
  [(.cpuTime, .unlimited), (.fileSize, .unlimited), (.dataSize, .unlimited),
    (.stackSize, ⟨some 8388608, none⟩), (.coreSize, ⟨some 0, none⟩), (.residentSet, .unlimited),
    (.processes, .unlimited), (.openFiles, ⟨some 1024, some 1048576⟩),
    (.lockedMemory, .both 67108864), (.addressSpace, .unlimited), (.fileLocks, .unlimited),
    (.pendingSignals, .both 127235), (.messageQueues, .both 819200), (.nicePriority, .both 0),
    (.realtimePriority, .both 0), (.realtimeTimeout, .unlimited)]

def get (l : Rlimits) (r : Resource) : Bound := (List.lookup r l).getD .unlimited

def set (l : Rlimits) (r : Resource) (b : Bound) : Rlimits :=
  l.map fun (x, old) => if x = r then (x, b) else (x, old)

/-- Sets a bound if there is one to set. -/
def restrict (l : Rlimits) (r : Resource) (n : Option Nat) : Rlimits :=
  match n with
  | some n => l.set r (.both n)
  | none => l

/-- Puts a plan into force: the hard bound on processor time is one second above the soft one. -/
def apply (l : Rlimits) (plan : RlimitPlan) : Rlimits :=
  let l := match plan.cpuSecs with
    | some s => l.set .cpuTime ⟨some s, some (RlimitPlan.cpuHard s)⟩
    | none => l
  let l := l.restrict .addressSpace plan.addressSpace
  let l := l.restrict .processes plan.processes
  let l := l.restrict .openFiles plan.openFiles
  let l := l.restrict .fileSize plan.fileSize
  if plan.unlimitedCore then l.set .coreSize .unlimited else l

end Rlimits

namespace Resource

/-- The name and the unit of a resource in the table. -/
def label : Resource → String × String
  | cpuTime => ("Max cpu time", "seconds")
  | fileSize => ("Max file size", "bytes")
  | dataSize => ("Max data size", "bytes")
  | stackSize => ("Max stack size", "bytes")
  | coreSize => ("Max core file size", "bytes")
  | residentSet => ("Max resident set", "bytes")
  | processes => ("Max processes", "processes")
  | openFiles => ("Max open files", "files")
  | lockedMemory => ("Max locked memory", "bytes")
  | addressSpace => ("Max address space", "bytes")
  | fileLocks => ("Max file locks", "locks")
  | pendingSignals => ("Max pending signals", "signals")
  | messageQueues => ("Max msgqueue size", "bytes")
  | nicePriority => ("Max nice priority", "")
  | realtimePriority => ("Max realtime priority", "")
  | realtimeTimeout => ("Max realtime timeout", "us")

end Resource

namespace Rlimits

/-- One line of the table. -/
def row (name soft hard unit : String) : String :=
  Octets.padRight 25 name ++ " " ++ Octets.padRight 20 soft ++ " " ++ Octets.padRight 20 hard ++
    " " ++ (if unit = "" then "" else Octets.padRight 10 unit) ++ "\n"

def boundText : Option Nat → String
  | some n => toString n
  | none => "unlimited"

/-- The table of all bounds. -/
def render (l : Rlimits) : String :=
  row "Limit" "Soft Limit" "Hard Limit" "Units" ++
    String.join (l.map fun (r, b) =>
      row r.label.1 (boundText b.soft) (boundText b.hard) r.label.2)

end Rlimits

end Confine.Host
