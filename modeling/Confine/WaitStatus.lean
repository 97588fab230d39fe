import Confine.Engine

/-!
How the raw wait status of a child tells its end, and which signals count as crashes.
-/

namespace Confine

namespace WaitStatus

/-- The low seven bits: 0 for an exit, 127 for a child that has only stopped, else a signal. -/
def low (raw : Int) : Int := raw % 128

/-- The exit code, in the bits from the eighth on. -/
def code (raw : Int) : Int := raw / 256 % 256

/-- The event that ends the child; a status that tells no end, and a wait that failed, is exit
status -1. -/
def event : Option Int → EngineEvent
  | none => .exit (-1)
  | some raw =>
    if low raw = 0 then .exit (code raw)
    else if low raw = 127 then .exit (-1)
    else .signal (low raw)

/-- The status of an exit. -/
def ofExit (code : Nat) : Int := (code % 256) * 256

/-- The status of an end by a signal. -/
def ofSignal (number : Nat) : Int := number

end WaitStatus

/-- The signals that end a program after a fault of its own: illegal instruction, abort, bus error,
arithmetic error, segmentation fault and bad system call. -/
def isCrash (signal : Int) : Bool := [4, 6, 7, 8, 11, 31].contains signal

end Confine
