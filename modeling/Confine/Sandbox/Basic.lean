import Confine.Config
import Confine.Engine
import Confine.Error
import Confine.Event.Hub
import Confine.PathMapping

/-!
One sandbox: its state, the two output readers, the event hub, and the events that its engine
reported while the child was being started. Every change of the state is announced, and the ends of
a child close both readers and let the engine go.
-/

namespace Confine

structure Sandbox where
  state : Lifecycle := .idle
  /-- The state that waiters see. -/
  announced : Lifecycle := .idle
  /-- Engine events received while spawning, the oldest first. -/
  pending : List EngineEvent := []
  /-- Whether the engine has not been let go. -/
  engineHeld : Bool := true
  stdout : Reader
  stderr : Reader
  hub : Hub
  mapping : PathMapping := .identity
  debugOnCrash : Bool := false
  /-- The directory for spawns that name none. -/
  workingDir : Option String := none
  /-- Whether the child's stdin was closed through a writer. -/
  stdinEnded : Bool := false
  /-- Whether the owner has not dropped the sandbox; writers and readers may outlive it. -/
  present : Bool := true

namespace Sandbox

/-- An idle sandbox. -/
def ofConfig (c : Config) : Sandbox :=
  { stdout := { policy := c.outputBuffer, highWaterMark := c.highWaterMark }
    stderr := { policy := c.outputBuffer, highWaterMark := c.highWaterMark }
    hub := Hub.ofCapacity c.eventCapacity
    debugOnCrash := c.debugOnCrash
    workingDir := c.workingDir }

/-- An idle sandbox, where its hub can be made. -/
def ofConfig? (c : Config) : Option Sandbox :=
  (Hub.ofCapacity? c.eventCapacity).map fun hub => { ofConfig c with hub }

def reader (s : Sandbox) : Stream → Reader
  | .stdout => s.stdout
  | .stderr => s.stderr

def setReader (s : Sandbox) (stream : Stream) (r : Reader) : Sandbox :=
  match stream with
  | .stdout => { s with stdout := r }
  | .stderr => { s with stderr := r }

/-- Shows the state to waiters. -/
def announce (s : Sandbox) : Sandbox := { s with announced := s.state }

def emit (s : Sandbox) (event : LifecycleEvent) : Sandbox := { s with hub := s.hub.emit event }

def notify (s : Sandbox) (stream : Stream) (len : Nat) : Sandbox :=
  { s with hub := s.hub.notify ⟨stream.fd, len⟩ }

def report (s : Sandbox) (fault : EngineFault) : Sandbox := { s with hub := s.hub.report fault }

/-- Closes both readers and lets the engine go. -/
def release (s : Sandbox) : Sandbox :=
  { s with stdout := s.stdout.close.1, stderr := s.stderr.close.1, engineHeld := false }

/-- The stream of a descriptor; a descriptor without a reader is a fault. -/
def streamOf (s : Sandbox) (fd : Int) : Sandbox × Except SandboxError Stream :=
  match Stream.ofFd? fd with
  | some stream => (s, .ok stream)
  | none => (s.report (.unknownDescriptor fd), .error (.unknownDescriptor fd))

/-- Hands output to its reader and publishes what became of it: dropped bytes first, then the bytes
kept. The answer is whether the reader wants more. -/
def route (s : Sandbox) (stream : Stream) (bytes : Bytes) : Sandbox × Bool :=
  let pushed := (s.reader stream).push bytes
  let s := s.setReader stream pushed.1
  match pushed.2 with
  | .buffered ready => (if bytes = [] then s else s.notify stream bytes.length, ready)
  | .truncated accepted dropped =>
    let s := s.report (.bytesDropped stream.fd dropped)
    (if accepted = 0 then s else s.notify stream accepted, false)
  | .closed => (s, false)

/-- Ends a running child; later ends are ignored. -/
def terminate (s : Sandbox) (t : Termination) : Sandbox :=
  match s.state.terminate? t with
  | none => s
  | some state =>
    let s := { s with state }.announce
    let s := match t.event? with
      | some event => s.emit event
      | none => s
    s.release

/-- Applies one event of the engine. -/
def apply (s : Sandbox) : EngineEvent → Sandbox × Except SandboxError Bool
  | .data fd bytes =>
    match s.streamOf fd with
    | (s, .error e) => (s, .error e)
    | (s, .ok stream) =>
      let (s, ready) := s.route stream bytes
      (s, .ok ready)
  | .exit status => (s.terminate (.exited status), .ok false)
  | .signal number => (s.terminate (.signaled number), .ok false)
  | .newSocket path => (if s.state.isRunning then s.emit (.newSocket path) else s, .ok false)

/-- Keeps an event for the end of the spawn; only its descriptor is checked now. -/
def postpone (s : Sandbox) (event : EngineEvent) : Sandbox × Except SandboxError Bool :=
  let kept := { s with pending := s.pending ++ [event] }
  match event with
  | .data fd _ =>
    match Stream.ofFd? fd with
    | some _ => (kept, .ok true)
    | none => (s.report (.unknownDescriptor fd), .error (.unknownDescriptor fd))
  | _ => (kept, .ok true)

/-- Takes in an event of the engine. After the sandbox was dropped it is discarded. -/
def deliver (s : Sandbox) (event : EngineEvent) : Sandbox × Except SandboxError Bool :=
  if !s.present then (s, .ok false)
  else if s.state = .spawning then s.postpone event
  else s.apply event

/-- Applies postponed events in their order. -/
def replay (s : Sandbox) (events : List EngineEvent) : Sandbox :=
  events.foldl (fun s event => (s.apply event).1) s

/-- Starts a spawn: only an idle sandbox can. The request is what its engine gets. -/
def beginSpawn (s : Sandbox) (options : SpawnOptions) :
    Except SandboxError (Sandbox × SpawnRequest) :=
  match s.state with
  | .idle =>
    let workDir := match options.workDir with
      | some dir => some dir
      | none => s.workingDir
    .ok ({ s with state := .spawning }.announce,
      { options := { options with workDir }, debugOnCrash := s.debugOnCrash })
  | state => .error (.invalidState "spawn" state)

/-- Announces the start, before any postponed event. -/
def started (s : Sandbox) : Sandbox :=
  { ({ s with state := .running }.announce).emit .started with pending := [] }

/-- The engine started the child: the postponed events follow the start. -/
def spawnSucceeded (s : Sandbox) : Sandbox := s.started.replay s.pending

/-- The engine could not start the child: the postponed events are discarded. -/
def spawnFailed (s : Sandbox) : Sandbox :=
  ({ s with state := .terminated .spawnFailed, pending := [] }.announce).release

/-- Ends a spawn with the engine's answer. -/
def finishSpawn (s : Sandbox) : Except EngineError Unit → Sandbox × Except SandboxError Unit
  | .ok () => (s.spawnSucceeded, .ok ())
  | .error e => (s.spawnFailed, .error (.spawn e))

/-- Whether a request to kill reaches the engine: it does while the child runs, and after the end it
is a no-op. -/
def killForwarded (s : Sandbox) : Except SandboxError Bool :=
  match s.state with
  | .running => .ok s.engineHeld
  | .terminated _ => .ok false
  | state => .error (.invalidState "kill" state)

/-- Whether an operation that needs a running child can reach the engine. -/
def checkRunning (s : Sandbox) (operation : String) : Except SandboxError Unit :=
  match s.state with
  | .running => if s.engineHeld then .ok () else .error .closedChannel
  | .terminated _ => .error .closedChannel
  | state => .error (.invalidState operation state)

/-- Whether a write to the child's stdin reaches the engine. -/
def checkWrite (s : Sandbox) : Except SandboxError Unit :=
  if s.stdinEnded || !s.present then .error .closedChannel else s.checkRunning "write to stdin"

/-- Closes the child's stdin; the flag tells whether the engine is asked to. Closing again, or after
the end, is a no-op. -/
def endStdin (s : Sandbox) : Except SandboxError (Sandbox × Bool) :=
  let ended := { s with stdinEnded := true }
  if s.stdinEnded then .ok (s, false)
  else if !s.present then .ok (ended, false)
  else
    match s.checkRunning "close stdin" with
    | .ok () => .ok (ended, true)
    | .error .closedChannel => .ok (ended, false)
    | .error e => .error e

/-- Whether a writer to the child's stdin is closed. -/
def stdinClosed (s : Sandbox) : Bool := s.stdinEnded || !s.present || s.state.isTerminated

/-- What a waiter for the end gets once the state that it sees is terminated. An end that the state
does not tell would count as a failed spawn. -/
def endSeen? (s : Sandbox) : Option Termination :=
  if s.announced.isTerminated then some (s.announced.termination?.getD .spawnFailed) else none

/-- Reads from one of the readers. -/
def readMax (s : Sandbox) (stream : Stream) (max : Option Nat) : Sandbox × ReadOutcome :=
  let (r, outcome) := (s.reader stream).readMax max
  (s.setReader stream r, outcome)

/-- The owner drops the sandbox. The engine goes with it; the readers keep what they hold. -/
def drop (s : Sandbox) : Sandbox := { s with present := false, engineHeld := false }

end Sandbox

end Confine
