import Confine.Reader.Waiting
import Confine.Sandbox.Basic

/-!
Copying one pipe of the child into the sandbox. Each turn waits until the reader has room or the
child was reaped, and then reads the pipe once; from the reaping on there is no more waiting for
room, so that the pipe is drained to its end.
-/

namespace Confine

/-- What a read of the pipe can meet. -/
inductive PipeItem where
  /-- Bytes; none of them reads as the end of the stream. -/
  | data (bytes : Bytes)
  /-- An interrupted read, to be tried again. -/
  | interrupted
  | failed
  | endOfStream
deriving DecidableEq

namespace PipeItem

/-- A bound on the reads that an item can be good for. -/
def weight : PipeItem → Nat
  | data bytes => bytes.length + 1
  | _ => 1

end PipeItem

/-- Where the copying stands. -/
inductive PumpPhase where
  /-- At the start of a turn. -/
  | fresh
  /-- Asleep in the wait for room. -/
  | asleep (stream : Stream) (signals : Nat)
  /-- In the read of the pipe. -/
  | reading
  | finished
deriving DecidableEq

structure Pump where
  /-- The descriptor under which the bytes are reported. -/
  fd : Int
  /-- What is still to be read. -/
  pipe : List PipeItem := []
  phase : PumpPhase := .fresh
  /-- Whether the wait for room has been given up. -/
  draining : Bool := false
deriving DecidableEq

namespace Pump

/-- The size of one read. -/
def readSize : Nat := 8192

/-- A bound on the reads that a pipe can be good for. -/
def weight : List PipeItem → Nat
  | [] => 0
  | item :: rest => item.weight + weight rest

/-- Adds an item at the end of the pipe. -/
def feed (p : Pump) (item : PipeItem) : Pump := { p with pipe := p.pipe ++ [item] }

/-- Goes on from a wait for room: with room, or without it once the child was reaped. -/
def leaveWait (p : Pump) (reaped : Bool) (stream : Stream) : Poll Unit → Pump
  | .ready () => { p with phase := .reading }
  | .asleep n =>
    if reaped then { p with phase := .reading, draining := true }
    else { p with phase := .asleep stream n }

/-- Passes the wait at the start of a turn, if it can. -/
def gate (p : Pump) (reaped : Bool) (s : Sandbox) : Pump × Sandbox :=
  match p.phase with
  | .fresh =>
    if p.draining || !s.present then ({ p with phase := .reading }, s)
    else
      match s.streamOf p.fd with
      | (s, .error _) => ({ p with phase := .finished }, s)
      | (s, .ok stream) => (p.leaveWait reaped stream ((s.reader stream).pollWritable none), s)
  | .asleep stream n => (p.leaveWait reaped stream ((s.reader stream).pollWritable (some n)), s)
  | .reading | .finished => (p, s)

/-- Hands a chunk to the sandbox; if it is refused the copying ends. -/
def handOver (p : Pump) (chunk : Bytes) (s : Sandbox) : Pump × Sandbox :=
  match s.deliver (.data p.fd chunk) with
  | (s, .ok _) => ({ p with phase := .fresh }, s)
  | (s, .error _) => ({ p with phase := .finished }, s)

/-- Reads the front item of the pipe. -/
def readItem (p : Pump) (item : PipeItem) (rest : List PipeItem) (s : Sandbox) : Pump × Sandbox :=
  match item with
  | .data [] | .failed | .endOfStream => ({ p with pipe := rest, phase := .finished }, s)
  | .interrupted => ({ p with pipe := rest, phase := .fresh }, s)
  | .data bytes =>
    let left := bytes.drop readSize
    { p with pipe := if left = [] then rest else .data left :: rest }.handOver
      (bytes.take readSize) s

/-- The pump after passing the wait and reading an item, if it can do both. -/
def turn? (p : Pump) (reaped : Bool) (s : Sandbox) : Option (Pump × Sandbox) :=
  match (p.gate reaped s).1.phase, p.pipe with
  | .reading, item :: rest => some ((p.gate reaped s).1.readItem item rest (p.gate reaped s).2)
  | _, _ => none

theorem handOver_pipe (p : Pump) (chunk : Bytes) (s : Sandbox) :
    (p.handOver chunk s).1.pipe = p.pipe := by
  unfold handOver
  split <;> rfl

theorem readItem_weight (p : Pump) (item : PipeItem) (rest : List PipeItem) (s : Sandbox) :
    weight (p.readItem item rest s).1.pipe < weight (item :: rest) := by
  unfold readItem
  split
  · simp [weight, PipeItem.weight]
  · simp [weight, PipeItem.weight]
  · simp [weight, PipeItem.weight]
  · simp [weight, PipeItem.weight]
  · rename_i bytes hne
    rw [handOver_pipe]
    have : 0 < bytes.length := List.length_pos_iff.mpr fun h => hne h
    split <;> simp [weight, PipeItem.weight, readSize]
    omega

theorem turn?_weight {p : Pump} {reaped : Bool} {s : Sandbox} {q : Pump × Sandbox}
    (h : p.turn? reaped s = some q) : weight q.1.pipe < weight p.pipe := by
  unfold turn? at h
  split at h
  · rename_i hp
    cases h
    rw [hp]
    exact readItem_weight _ _ _ _
  · cases h

/-- Goes on as far as possible. -/
def poll (p : Pump) (reaped : Bool) (s : Sandbox) : Pump × Sandbox :=
  match _h : p.turn? reaped s with
  | some q => q.1.poll reaped q.2
  | none => p.gate reaped s
termination_by weight p.pipe
decreasing_by exact turn?_weight _h

end Pump

/-- A pump at work on a sandbox whose child has been started. -/
structure Copying where
  sandbox : Sandbox
  pump : Pump
  /-- Whether the child was reaped. -/
  reaped : Bool := false

namespace Copying

/-- A sandbox that has just started its child, and a pump that has not begun. -/
def ofConfig (c : Config) (fd : Int) : Copying :=
  let idle := Sandbox.ofConfig c
  { sandbox := match idle.beginSpawn { program := "" } with
      | .ok (s, _) => (s.finishSpawn (.ok ())).1
      | .error _ => idle
    pump := { fd } }

inductive Step where
  | feed (item : PipeItem)
  | reap
  /-- The child's exit is reported. -/
  | exit (status : Int)
  | drop
  | read (stream : Stream) (max : Option Nat)
  | poll
deriving DecidableEq

/-- What a step shows. -/
inductive Outcome where
  | nothing
  | read (outcome : ReadOutcome)
  | pending
  /-- The copying has just ended. -/
  | ready
  /-- The copying ended in an earlier poll. -/
  | finished
deriving DecidableEq

/-- Does one step. -/
def step (c : Copying) : Step → Copying × Outcome
  | .feed item => ({ c with pump := c.pump.feed item }, .nothing)
  | .reap => ({ c with reaped := true }, .nothing)
  | .exit status => ({ c with sandbox := (c.sandbox.deliver (.exit status)).1 }, .nothing)
  | .drop => ({ c with sandbox := c.sandbox.drop }, .nothing)
  | .read stream max =>
    let (sandbox, outcome) := c.sandbox.readMax stream max
    ({ c with sandbox }, .read outcome)
  | .poll =>
    if c.pump.phase = .finished then (c, .finished)
    else
      let (pump, sandbox) := c.pump.poll c.reaped c.sandbox
      ({ c with pump, sandbox }, if pump.phase = .finished then .ready else .pending)

end Copying

end Confine
