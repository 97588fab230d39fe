import Confine.Config

/-!
The limits of a child as the kernel takes them: in seconds, bytes and numbers.
-/

namespace Confine

structure RlimitPlan where
  cpuSecs : Option Nat
  addressSpace : Option Nat
  processes : Option Nat
  openFiles : Option Nat
  fileSize : Option Nat
  unlimitedCore : Bool
deriving DecidableEq

namespace RlimitPlan

/-- Milliseconds rounded up to whole seconds, of which there is at least one. -/
def wholeSeconds (ms : Nat) : Nat := max ((ms + 999) / 1000) 1

def ofLimits (l : Limits) (debugOnCrash : Bool) : RlimitPlan :=
  { cpuSecs := l.cpuTimeMs.map wholeSeconds
    addressSpace := l.memoryMb.map (· * 1024 * 1024)
    processes := l.processes
    openFiles := l.openFiles
    fileSize := l.fsizeKb.map (· * 1024)
    unlimitedCore := debugOnCrash }

/-- The hard limit on seconds of processor time: one above the soft one, so that the warning comes
before the kill. -/
def cpuHard (soft : Nat) : Nat := soft + 1

end RlimitPlan

end Confine
