import Confine.Event.Channel
import Confine.Lifecycle
import Confine.Text.Record

/-!
The event hub of a sandbox: lossless channels for lifecycle events, in one ordered stream and by
kind, and rings for data notices and faults.
-/

namespace Confine

/-- The child wrote so many bytes to a descriptor. -/
structure DataNotice where
  fd : Int
  len : Nat
deriving DecidableEq

inductive EngineFault where
  /-- Data came for a descriptor without a reader. -/
  | unknownDescriptor (fd : Int)
  /-- A full reader dropped bytes. -/
  | bytesDropped (fd : Int) (count : Nat)
deriving DecidableEq

/-- The channels of a hub. -/
inductive Topic where
  | lifecycle
  | started
  | exit
  | signal
  | newSocket
  | data
  | faults
deriving DecidableEq

/-- A message of some channel. -/
inductive Message where
  | lifecycle (event : LifecycleEvent)
  | started
  | exit (status : Int)
  | signal (number : Int)
  | newSocket (path : String)
  | data (notice : DataNotice)
  | fault (fault : EngineFault)
deriving DecidableEq

def Received.map (f : α → β) : Received α → Received β
  | value a => value (f a)
  | empty => empty
  | closed => closed
  | lagged n => lagged n

structure Hub where
  lifecycle : Fanout LifecycleEvent := {}
  started : Fanout Unit := {}
  exit : Fanout Int := {}
  signal : Fanout Int := {}
  newSocket : Fanout String := {}
  data : Ring DataNotice
  faults : Ring EngineFault

/-- A place in one channel from which its subscriber receives. -/
structure Subscription where
  topic : Topic
  position : Nat
deriving DecidableEq

namespace Hub

/-- The capacity asked of both rings: at least one message. -/
def ringCapacity (eventCapacity : Nat) : Nat := max eventCapacity 1

/-- A hub whose rings have the given capacity. -/
def ofCapacity (eventCapacity : Nat) : Hub :=
  { data := Ring.ofCapacity (ringCapacity eventCapacity)
    faults := Ring.ofCapacity (ringCapacity eventCapacity) }

/-- A hub whose rings have the given capacity, where both can be made. -/
def ofCapacity? (eventCapacity : Nat) : Option Hub := do
  let data ← Ring.ofCapacity? (ringCapacity eventCapacity)
  let faults ← Ring.ofCapacity? (ringCapacity eventCapacity)
  some { data, faults }

/-- Sends an event on the channel of its kind. -/
def emitTyped (h : Hub) : LifecycleEvent → Hub
  | .started => { h with started := h.started.send () }
  | .newSocket path => { h with newSocket := h.newSocket.send path }
  | .exit status => { h with exit := h.exit.send status }
  | .signal number => { h with signal := h.signal.send number }

/-- Sends an event on the channel of its kind and then on the ordered one. -/
def emit (h : Hub) (event : LifecycleEvent) : Hub :=
  { h.emitTyped event with lifecycle := h.lifecycle.send event }

def notify (h : Hub) (notice : DataNotice) : Hub := { h with data := h.data.send notice }

def report (h : Hub) (fault : EngineFault) : Hub := { h with faults := h.faults.send fault }

def subscribe (h : Hub) (topic : Topic) : Hub × Subscription :=
  match topic with
  | .lifecycle =>
    let (c, p) := h.lifecycle.subscribe
    ({ h with lifecycle := c }, ⟨topic, p⟩)
  | .started =>
    let (c, p) := h.started.subscribe
    ({ h with started := c }, ⟨topic, p⟩)
  | .exit =>
    let (c, p) := h.exit.subscribe
    ({ h with exit := c }, ⟨topic, p⟩)
  | .signal =>
    let (c, p) := h.signal.subscribe
    ({ h with signal := c }, ⟨topic, p⟩)
  | .newSocket =>
    let (c, p) := h.newSocket.subscribe
    ({ h with newSocket := c }, ⟨topic, p⟩)
  | .data => (h, ⟨topic, h.data.subscribe⟩)
  | .faults => (h, ⟨topic, h.faults.subscribe⟩)

/-- The subscriber of a channel leaves. -/
def leave (h : Hub) : Topic → Hub
  | .lifecycle => { h with lifecycle := h.lifecycle.leave }
  | .started => { h with started := h.started.leave }
  | .exit => { h with exit := h.exit.leave }
  | .signal => { h with signal := h.signal.leave }
  | .newSocket => { h with newSocket := h.newSocket.leave }
  | .data | .faults => h

/-- The next message of a subscription; `closed` tells whether more can come. -/
def receive (h : Hub) (closed : Bool) (s : Subscription) : Subscription × Received Message :=
  match s.topic with
  | .lifecycle => next (h.lifecycle.receive closed s.position) .lifecycle
  | .started => next (h.started.receive closed s.position) fun _ => .started
  | .exit => next (h.exit.receive closed s.position) .exit
  | .signal => next (h.signal.receive closed s.position) .signal
  | .newSocket => next (h.newSocket.receive closed s.position) .newSocket
  | .data => next (h.data.receive closed s.position) .data
  | .faults => next (h.faults.receive closed s.position) .fault
where
  next {α : Type} (found : Nat × Received α) (f : α → Message) : Subscription × Received Message :=
    ({ s with position := found.1 }, found.2.map f)

/-- The subscribers on the list of the ordered channel. -/
def lifecycleSubscribers (h : Hub) : Nat := h.lifecycle.listed

def diagnostic (h : Hub) : String :=
  let lossless (name : String) (listed : Nat) :=
    (name, Text.record "Subscribers" [("count", toString listed)])
  let ring (name : String) := (name, "broadcast::Sender")
  Text.record "EventHub"
    [lossless "lifecycle" h.lifecycle.listed, lossless "started" h.started.listed,
      lossless "exit" h.exit.listed, lossless "signal" h.signal.listed,
      lossless "new_socket" h.newSocket.listed, ring "data", ring "faults"]

end Hub

end Confine
