import Confine.Sandbox.Diagnostic
import Confine.Session.Operation

/-!
Sessions: one sandbox, its engine, the waits in progress and the subscriptions. The engine is
reached through a link; whatever it does while it is called is part of the call.
-/

namespace Confine

/-- A wait in progress. -/
inductive Task where
  | read (stream : Stream) (asleep : Option Nat)
  | readToEnd (stream : Stream) (taken : Bytes) (asleep : Option Nat)
  | readerWritable (stream : Stream) (asleep : Option Nat)
  | sinkWritable (fd : Int)
  /-- A sink's wait that has found its reader. -/
  | sinkAsleep (stream : Stream) (asleep : Nat)
  | termination
deriving DecidableEq

/-- A wait that has not been polled. -/
def Wait.task : Wait → Task
  | .read stream => .read stream none
  | .readToEnd stream => .readToEnd stream [] none
  | .readerWritable stream => .readerWritable stream none
  | .sinkWritable fd => .sinkWritable fd
  | .termination => .termination

/-- Named values; a new value takes the place of an old one of the same name. -/
abbrev Named (α : Type) := List (String × α)

namespace Named

def remove (t : Named α) (name : String) : Named α := t.filter fun (n, _) => n ≠ name

def set (t : Named α) (name : String) (a : α) : Named α := (name, a) :: t.remove name

def find? (t : Named α) (name : String) : Option α := List.lookup name t

end Named

/-- A sandbox with an engine of type `ε`. -/
structure Session (ε : Type) where
  sandbox : Sandbox
  engine : ε
  /-- Whether the engine was asked to spawn: it then has a sink and the path mapping. -/
  asked : Bool := false
  tasks : Named Task := []
  subscriptions : Named Subscription := []

/-- How a session reaches its engine. A call may change the session and is recorded as values of
type `κ`. -/
structure EngineLink (ε κ : Type) where
  spawn : Session ε → SpawnRequest → Session ε × Except EngineError Unit × List κ
  kill : Session ε → Session ε × List κ
  /-- Whether the bytes were accepted is the second part. -/
  write : Session ε → Bytes → Session ε × Bool × List κ
  close : Session ε → Session ε × List κ
  /-- Tries a wait, and again each time that the child has gone on, until it is over or the child
  does not go on any more. -/
  settle : (Session ε → Session ε × Answer) → Session ε → Session ε × Answer

namespace Sandbox

/-- Polls a wait once: it is over with a value, or goes on. -/
def poll (s : Sandbox) : Task → Sandbox × (WaitValue ⊕ Task)
  | .read stream asleep =>
    let (r, poll) := (s.reader stream).pollRead asleep
    (s.setReader stream r, match poll with
      | .ready chunk => .inl (.chunk chunk)
      | .asleep n => .inr (.read stream (some n)))
  | .readToEnd stream taken asleep =>
    let (r, taken, poll) := (s.reader stream).pollReadToEnd taken asleep
    (s.setReader stream r, match poll with
      | .ready () => .inl (.all taken)
      | .asleep n => .inr (.readToEnd stream taken (some n)))
  | .readerWritable stream asleep =>
    (s, match (s.reader stream).pollWritable asleep with
      | .ready () => .inl (.writable (.ok ()))
      | .asleep n => .inr (.readerWritable stream (some n)))
  | .sinkWritable fd =>
    if !s.present then (s, .inl (.writable (.ok ())))
    else
      match s.streamOf fd with
      | (s, .error e) => (s, .inl (.writable (.error e)))
      | (s, .ok stream) => (s, sink s stream none)
  | .sinkAsleep stream asleep => (s, sink s stream (some asleep))
  | .termination =>
    (s, match s.endSeen? with
      | some t => .inl (.termination t)
      | none => .inr .termination)
where
  sink (s : Sandbox) (stream : Stream) (asleep : Option Nat) : WaitValue ⊕ Task :=
    match (s.reader stream).pollWritable asleep with
    | .ready () => .inl (.writable (.ok ()))
    | .asleep n => .inr (.sinkAsleep stream n)

/-- The reads until there is no more data, the last one without any. -/
def drain (s : Sandbox) (stream : Stream) : Sandbox × List ReadOutcome :=
  let (r, chunks, next) := (s.reader stream).drain
  (s.setReader stream r, chunks.map .data ++ [next])

end Sandbox

namespace Hub

/-- Receives until there is nothing more. The bound on the number of messages is never reached by a
subscription of this hub. -/
def receiveAll (h : Hub) (closed : Bool) :
    Nat → Subscription → Subscription × List (Received Message)
  | 0, s => (s, [])
  | bound + 1, s =>
    let (s, r) := h.receive closed s
    match r with
    | .empty | .closed => (s, [r])
    | _ =>
      let (s, rs) := receiveAll h closed bound s
      (s, r :: rs)

/-- The number of messages sent on a channel. -/
def sentCount (h : Hub) : Topic → Nat
  | .lifecycle => h.lifecycle.sent.length
  | .started => h.started.sent.length
  | .exit => h.exit.sent.length
  | .signal => h.signal.sent.length
  | .newSocket => h.newSocket.sent.length
  | .data => h.data.sent.length
  | .faults => h.faults.sent.length

end Hub

namespace Session

variable {ε κ : Type}

/-- A session on an idle sandbox. -/
def ofConfig (c : Config) (engine : ε) : Session ε := { sandbox := .ofConfig c, engine }

/-- An operation's answer and the engine calls made for it. -/
abbrev Step (ε κ : Type) := Session ε × Answer × List κ

/-- Answers without any engine call. -/
def answer (s : Session ε) (a : Answer) : Step ε κ := (s, a, [])

/-- Spawns through the engine. -/
def spawn (link : EngineLink ε κ) (s : Session ε) (options : SpawnOptions) : Step ε κ :=
  match s.sandbox.beginSpawn options with
  | .error e => s.answer (.result (.error e))
  | .ok (sandbox, request) =>
    let (s, outcome, calls) := link.spawn { s with sandbox, asked := true } request
    let (sandbox, result) := s.sandbox.finishSpawn outcome
    ({ s with sandbox }, .result (result.map fun _ => .nothing), calls)

/-- Asks the engine to end the child. -/
def kill (link : EngineLink ε κ) (s : Session ε) : Step ε κ :=
  match s.sandbox.killForwarded with
  | .error e => s.answer (.result (.error e))
  | .ok false => s.answer (.result (.ok .nothing))
  | .ok true =>
    let (s, calls) := link.kill s
    (s, .result (.ok .nothing), calls)

/-- Writes to the child's stdin. -/
def write (link : EngineLink ε κ) (s : Session ε) (bytes : Bytes) : Step ε κ :=
  match s.sandbox.checkWrite with
  | .error e => s.answer (.result (.error e))
  | .ok () =>
    let (s, accepted, calls) := link.write s bytes
    (s, .result (if accepted then .ok (.count bytes.length) else .error .closedChannel), calls)

/-- Closes the child's stdin. -/
def endStdin (link : EngineLink ε κ) (s : Session ε) : Step ε κ :=
  match s.sandbox.endStdin with
  | .error e => s.answer (.result (.error e))
  | .ok (sandbox, false) => { s with sandbox }.answer (.result (.ok .nothing))
  | .ok (sandbox, true) =>
    let (s, calls) := link.close { s with sandbox }
    (s, .result (.ok .nothing), calls)

/-- The engine reports an event. -/
def report (s : Session ε) (event : EngineEvent) (answered : Bool) : Session ε × Answer :=
  if !s.asked then (s, .noSink)
  else
    let (sandbox, result) := s.sandbox.deliver event
    ({ s with sandbox }, if answered then .result (result.map .flag) else .nothing)

/-- Creates a wait. -/
def create (s : Session ε) (id : String) (wait : Wait) : Session ε × Answer :=
  let made := ({ s with tasks := s.tasks.set id wait.task }, Answer.nothing)
  match wait with
  | .sinkWritable _ => if s.asked then made else (s, .noSink)
  | .termination => if s.sandbox.present then made else (s, .dropped)
  | _ => made

/-- Polls a wait; one that is over is forgotten. -/
def poll (s : Session ε) (id : String) : Session ε × Answer :=
  match s.tasks.find? id with
  | none => (s, .noTask)
  | some task =>
    match s.sandbox.poll task with
    | (sandbox, .inl value) => ({ s with sandbox, tasks := s.tasks.remove id }, .ready value)
    | (sandbox, .inr task) => ({ s with sandbox, tasks := s.tasks.set id task }, .pending)

/-- Lets the child run until a wait is over. -/
def await (link : EngineLink ε κ) (s : Session ε) (id : String) : Session ε × Answer :=
  match link.settle (fun s => s.poll id) s with
  | (s, .pending) => (s, .timeout)
  | finished => finished

/-- Subscribes to a channel; the earlier subscriber of that name leaves afterwards. -/
def subscribe (s : Session ε) (id : String) (topic : Topic) : Session ε :=
  let (hub, subscription) := s.sandbox.hub.subscribe topic
  let hub := match s.subscriptions.find? id with
    | some old => hub.leave old.topic
    | none => hub
  { s with
    sandbox := { s.sandbox with hub }
    subscriptions := s.subscriptions.set id subscription }

/-- A subscriber leaves. -/
def unsubscribe (s : Session ε) (id : String) : Session ε × Bool :=
  match s.subscriptions.find? id with
  | none => (s, false)
  | some old =>
    ({ s with
      sandbox := { s.sandbox with hub := s.sandbox.hub.leave old.topic }
      subscriptions := s.subscriptions.remove id }, true)

/-- Receives the next message of a subscription. -/
def receive (s : Session ε) (id : String) : Session ε × Answer :=
  match s.subscriptions.find? id with
  | none => (s, .noSubscription)
  | some subscription =>
    let (subscription, r) := s.sandbox.hub.receive (!s.sandbox.present) subscription
    ({ s with subscriptions := s.subscriptions.set id subscription }, .received r)

/-- Receives messages until there is none left. -/
def receiveAll (s : Session ε) (id : String) : Session ε × Answer :=
  match s.subscriptions.find? id with
  | none => (s, .noSubscription)
  | some subscription =>
    let hub := s.sandbox.hub
    let (subscription, rs) := hub.receiveAll (!s.sandbox.present)
      (hub.sentCount subscription.topic + 2) subscription
    ({ s with subscriptions := s.subscriptions.set id subscription }, .receivedAll rs)

/-- Drops the sandbox, and with it the waits for its end. -/
def dropSandbox (s : Session ε) : Session ε × Bool :=
  if s.sandbox.present then
    ({ s with
      sandbox := s.sandbox.drop
      tasks := s.tasks.filter fun (_, task) => task ≠ .termination }, true)
  else (s, false)

/-- An operation that only the owner of the sandbox can do. -/
def owner (s : Session ε) (step : Step ε κ) : Step ε κ :=
  if s.sandbox.present then step else s.answer .dropped

/-- Does one operation. -/
def perform (link : EngineLink ε κ) (s : Session ε) : Operation → Step ε κ
  | .write bytes => s.write link bytes
  | .endStdin => s.endStdin link
  | .read stream max =>
    let (sandbox, outcome) := s.sandbox.readMax stream max
    { s with sandbox }.answer (.read outcome)
  | .drain stream =>
    let (sandbox, outcomes) := s.sandbox.drain stream
    { s with sandbox }.answer (.reads outcomes)
  | .describeReader stream =>
    let r := s.sandbox.reader stream
    s.answer (.reader stream.fd r.policy (r.diagnostic stream.fd))
  | .report event answered =>
    let (s, a) := s.report event answered
    s.answer a
  | .attached => s.answer (if s.asked then .flag s.sandbox.present else .noSink)
  | .create id wait =>
    let (s, a) := s.create id wait
    s.answer a
  | .poll id =>
    let (s, a) := s.poll id
    s.answer a
  | .await id =>
    let (s, a) := s.await link id
    s.answer a
  | .cancel id =>
    { s with tasks := s.tasks.remove id }.answer (.flag (s.tasks.find? id).isSome)
  | .receive id =>
    let (s, a) := s.receive id
    s.answer a
  | .receiveAll id =>
    let (s, a) := s.receiveAll id
    s.answer a
  | .unsubscribe id =>
    let (s, existed) := s.unsubscribe id
    s.answer (.flag existed)
  | .map path => s.answer (if s.asked then .text (s.sandbox.mapping.map path) else .noRequest)
  | .dropSandbox =>
    let (s, existed) := s.dropSandbox
    s.answer (.flag existed)
  | .spawn options => s.owner (s.spawn link options)
  | .kill => s.owner (s.kill link)
  | .state => s.owner (s.answer (.text s.sandbox.state.name))
  | .describe => s.owner (s.answer (.text s.sandbox.diagnostic))
  | .describeHub => s.owner (s.answer (.text s.sandbox.hub.diagnostic))
  | .setDebug value =>
    s.owner ({ s with sandbox := { s.sandbox with debugOnCrash := value } }.answer .nothing)
  | .getDebug => s.owner (s.answer (.flag s.sandbox.debugOnCrash))
  | .setMapping f =>
    s.owner ({ s with
      sandbox := { s.sandbox with mapping := s.sandbox.mapping.replace f } }.answer .nothing)
  | .resetMapping =>
    s.owner ({ s with
      sandbox := { s.sandbox with mapping := s.sandbox.mapping.reset } }.answer .nothing)
  | .countSubscribers => s.owner (s.answer (.count s.sandbox.hub.lifecycleSubscribers))
  | .subscribe id topic => s.owner ((s.subscribe id topic).answer .nothing)

/-- What can be seen of a sandbox from outside: its state while it is there, both readers, whether
stdin is closed, and whether the engine is held. -/
structure Snapshot where
  state : Option Lifecycle
  stdout : Reader
  stderr : Reader
  stdinClosed : Bool
  engineHeld : Bool

def snapshot (s : Session ε) : Snapshot :=
  { state := if s.sandbox.present then some s.sandbox.state else none
    stdout := s.sandbox.stdout
    stderr := s.sandbox.stderr
    stdinClosed := s.sandbox.stdinClosed
    engineHeld := s.sandbox.engineHeld }

/-- One operation as it appears in a report. -/
structure StepReport (κ : Type) where
  answer : Answer
  snapshot : Snapshot
  calls : List κ

/-- Does operations in order and reports each. -/
def run (link : EngineLink ε κ) : List Operation → Session ε → Session ε × List (StepReport κ)
  | [], s => (s, [])
  | op :: ops, s =>
    let (s, answer, calls) := s.perform link op
    let report := { answer, snapshot := s.snapshot, calls }
    let (s, reports) := run link ops s
    (s, report :: reports)

end Session

end Confine
