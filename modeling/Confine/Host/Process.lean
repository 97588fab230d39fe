import Confine.Host.Image
import Confine.WaitStatus

/-!
Processes and open files.
-/

namespace Confine.Host

/-- What a descriptor leads to; several descriptors can share one. -/
inductive OpenFile where
  | pipeRead (pipe : Nat)
  | pipeWrite (pipe : Nat)
  | null
  | zero
  | full
  /-- A text that was made when the file was opened. -/
  | text (rest : Bytes)
  | file (at_ : Location) (offset : Nat) (appends : Bool)
  | directory
deriving DecidableEq

structure Process where
  pid : Nat
  parent : Nat
  image : Image
  /-- The open files by descriptor. -/
  descriptors : List (Nat × Nat) := []
  dir : Location := []
  dispositions : List (Nat × Disposition) := []
  limits : Rlimits := []
  /-- The processor time used, in ticks. -/
  used : Nat := 0
  /-- When the sleep is over that the process is in. -/
  wakeAt : Option Nat := none
  /-- The bytes of the current write that are written. -/
  written : Nat := 0
  stopped : Bool := false
  /-- Whether a caught signal came while the process was waiting. -/
  interrupted : Bool := false
  /-- The raw wait status of a process that has ended. -/
  status : Option Int := none

namespace Process

def isLive (p : Process) : Bool := p.status.isNone

def disposition (p : Process) (number : Nat) : Disposition :=
  (p.dispositions.lookup number).getD .default

def arrange (p : Process) (number : Nat) (d : Disposition) : Process :=
  { p with dispositions := (number, d) :: p.dispositions.filter fun (n, _) => n ≠ number }

/-- Lets a descriptor lead to an open file. -/
def bind (p : Process) (fd opened : Nat) : Process :=
  { p with descriptors := (fd, opened) :: p.descriptors.filter fun (n, _) => n ≠ fd }

def unbind (p : Process) (fd : Nat) : Process :=
  { p with descriptors := p.descriptors.filter fun (n, _) => n ≠ fd }

/-- The processor time that it takes to handle a reply, in ticks. -/
def cost : Reply → Nat
  | .data b => 1 + b.length / 512
  | _ => 1

/-- Goes on from the reply to a call. -/
def resume (p : Process) (reply : Reply) : Process :=
  { p with
    image := p.image.resume reply
    used := p.used + cost reply
    wakeAt := none
    written := 0
    interrupted := false }

/-- Ends the process. -/
def finish (p : Process) (raw : Int) : Process :=
  { p with descriptors := [], status := some raw, wakeAt := none }

/-- Delivers a signal. -/
def deliver (p : Process) (number : Nat) : Process :=
  if !p.isLive then p
  else if number = Signal.kill then p.finish (WaitStatus.ofSignal number)
  else
    let p := if number = Signal.resume then { p with stopped := false } else p
    match p.disposition number with
    | .ignored => p
    | .caught => { p with image := p.image.signalled number, interrupted := true }
    | .default =>
      match Signal.effect number with
      | .terminates => p.finish (WaitStatus.ofSignal number)
      | .stops => { p with stopped := true }
      | .resumes | .nothing => p

/-- The program takes the place of the current one: what was caught is no longer, and private
descriptors are closed. -/
def become (p : Process) (program : Program) (args : List String) (env : Bindings) : Process :=
  { p with
    image := .start program p.pid args env
    descriptors := p.descriptors.filter fun (fd, _) => fd < firstPrivate
    dispositions := p.dispositions.filter fun (_, d) => d = .ignored
    used := p.used + 1
    wakeAt := none
    written := 0 }

/-- Ticks of processor time in a second. -/
def ticksPerSecond : Nat := 1000 * ticksPerMilli

/-- Holds the process to its bound on processor time, with the time that it had used before: a
warning in each second from the soft bound on, and the end at the hard one. -/
def holdToTime (before : Nat) (p : Process) : Process :=
  if p.used / ticksPerSecond = before / ticksPerSecond then p
  else
    let reached (n : Option Nat) : Bool := n.any fun n => decide (n * ticksPerSecond ≤ p.used)
    let b := p.limits.get .cpuTime
    if reached b.hard then p.deliver Signal.kill
    else if reached b.soft then p.deliver Signal.cpuTime
    else p

end Process

end Confine.Host
