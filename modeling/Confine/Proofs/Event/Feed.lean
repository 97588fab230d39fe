import Confine.Session.Basic

/-!
The feeds of a hub: its channels on which nothing is lost. What each operation of the hub does to
the record and to the subscribers of a feed.
-/

namespace Confine

/-- The channels on which nothing is lost: all lifecycle events in their order, or those of one
kind. -/
inductive Feed where
  | ordered
  | started
  | exit
  | signal
  | newSocket
deriving DecidableEq

/-- The feed of an event's kind. -/
def LifecycleEvent.feed : LifecycleEvent → Feed
  | started => .started
  | exit _ => .exit
  | signal _ => .signal
  | newSocket _ => .newSocket

/-- What the feed of an event's kind tells of it. -/
def LifecycleEvent.payload : LifecycleEvent → Message
  | started => .started
  | exit status => .exit status
  | signal number => .signal number
  | newSocket path => .newSocket path

namespace Feed

def topic : Feed → Topic
  | ordered => .lifecycle
  | started => .started
  | exit => .exit
  | signal => .signal
  | newSocket => .newSocket

/-- What a feed tells of an event. -/
def message? : Feed → LifecycleEvent → Option Message
  | ordered, e => some (.lifecycle e)
  | started, .started => some .started
  | exit, .exit status => some (.exit status)
  | signal, .signal number => some (.signal number)
  | newSocket, .newSocket path => some (.newSocket path)
  | _, _ => none

/-- What a feed tells of the event that is in a message of the ordered feed. -/
def project (feed : Feed) : Message → Option Message
  | .lifecycle e => feed.message? e
  | _ => none

/-- The same for what a subscriber finds; the end of the one feed is the end of the other. -/
def projectReceived (feed : Feed) : Received Message → Option (Received Message)
  | .value message => (feed.project message).map .value
  | r => some r

theorem topic_inj {feed feed' : Feed} (h : feed.topic = feed'.topic) : feed = feed' := by
  cases feed <;> cases feed' <;> first | rfl | exact Topic.noConfusion h

/-- A feed of one kind tells what is of that kind on the ordered feed. -/
theorem filterMap_projectReceived (feed : Feed) (events : List LifecycleEvent) (closed : Bool) :
    ((events.filterMap ordered.message?).map Received.value ++ [Received.atEnd closed]).filterMap
        feed.projectReceived =
      (events.filterMap feed.message?).map Received.value ++ [Received.atEnd closed] := by
  have hend : feed.projectReceived (.atEnd closed) = some (.atEnd closed) := by
    cases closed <;> rfl
  induction events with
  | nil => simp only [List.filterMap_nil, List.map_nil, List.nil_append, List.filterMap_cons, hend]
  | cons e events ih =>
    have hordered : ordered.message? e = some (.lifecycle e) := rfl
    have hfirst : feed.projectReceived (.value (.lifecycle e)) = (feed.message? e).map .value := rfl
    simp only [List.filterMap_cons, hordered, List.map_cons, List.cons_append, hfirst, ih]
    cases feed.message? e <;> rfl

end Feed

namespace Hub

/-- Everything that was sent on a feed, the oldest first. -/
def record (h : Hub) : Feed → List Message
  | .ordered => h.lifecycle.sent.map .lifecycle
  | .started => h.started.sent.map fun _ => .started
  | .exit => h.exit.sent.map .exit
  | .signal => h.signal.sent.map .signal
  | .newSocket => h.newSocket.sent.map .newSocket

/-- The subscribers on the list of a feed. -/
def listed (h : Hub) : Feed → Nat
  | .ordered => h.lifecycle.listed
  | .started => h.started.listed
  | .exit => h.exit.listed
  | .signal => h.signal.listed
  | .newSocket => h.newSocket.listed

/-- The subscribers of a feed that have not left. -/
def present (h : Hub) : Feed → Nat
  | .ordered => h.lifecycle.present
  | .started => h.started.present
  | .exit => h.exit.present
  | .signal => h.signal.present
  | .newSocket => h.newSocket.present

theorem sentCount_feed (h : Hub) (feed : Feed) :
    h.sentCount feed.topic = (h.record feed).length := by
  cases feed <;> exact (List.length_map _).symm

theorem receive_feed (h : Hub) (closed : Bool) (feed : Feed) (position : Nat) :
    h.receive closed ⟨feed.topic, position⟩ =
      match (h.record feed)[position]? with
      | some message => (⟨feed.topic, position + 1⟩, .value message)
      | none => (⟨feed.topic, position⟩, .atEnd closed) := by
  have hatEnd {α β : Type} (f : α → β) :
      (Received.atEnd closed : Received α).map f = .atEnd closed := by
    cases closed <;> rfl
  cases feed with
  | ordered =>
    simp only [receive, receive.next, Feed.topic, Fanout.receive, record, List.getElem?_map]
    cases h.lifecycle.sent[position]? with
    | none => simp only [hatEnd, Option.map_none]
    | some => rfl
  | started =>
    simp only [receive, receive.next, Feed.topic, Fanout.receive, record, List.getElem?_map]
    cases h.started.sent[position]? with
    | none => simp only [hatEnd, Option.map_none]
    | some => rfl
  | exit =>
    simp only [receive, receive.next, Feed.topic, Fanout.receive, record, List.getElem?_map]
    cases h.exit.sent[position]? with
    | none => simp only [hatEnd, Option.map_none]
    | some => rfl
  | signal =>
    simp only [receive, receive.next, Feed.topic, Fanout.receive, record, List.getElem?_map]
    cases h.signal.sent[position]? with
    | none => simp only [hatEnd, Option.map_none]
    | some => rfl
  | newSocket =>
    simp only [receive, receive.next, Feed.topic, Fanout.receive, record, List.getElem?_map]
    cases h.newSocket.sent[position]? with
    | none => simp only [hatEnd, Option.map_none]
    | some => rfl

/-- All that is left to receive is what was sent from the position on. -/
theorem receiveAll_feed (h : Hub) (closed : Bool) (feed : Feed) {bound position : Nat}
    (hb : (h.record feed).length - position < bound) :
    (h.receiveAll closed bound ⟨feed.topic, position⟩).2 =
      ((h.record feed).drop position).map .value ++ [.atEnd closed] := by
  induction bound generalizing position with
  | zero => exact absurd hb (Nat.not_lt_zero _)
  | succ bound ih =>
    simp only [receiveAll, h.receive_feed]
    cases hm : (h.record feed)[position]? with
    | some message =>
      obtain ⟨hlt, rfl⟩ := List.getElem?_eq_some_iff.mp hm
      have hrest : (h.record feed).length - (position + 1) < bound := by omega
      rw [List.drop_eq_getElem_cons hlt]
      simp only [ih hrest, List.map_cons, List.cons_append]
    | none =>
      rw [List.drop_eq_nil_of_le (List.getElem?_eq_none_iff.mp hm)]
      cases closed <;> rfl

section Operations

variable (h : Hub) (feed : Feed)

theorem present_ofCapacity (capacity : Nat) : (ofCapacity capacity).present feed = 0 := by
  cases feed <;> rfl

theorem listed_ofCapacity (capacity : Nat) : (ofCapacity capacity).listed feed = 0 := by
  cases feed <;> rfl

theorem record_emit (event : LifecycleEvent) :
    (h.emit event).record feed = h.record feed ++ (feed.message? event).toList := by
  cases feed with
  | ordered => exact List.map_append
  | _ => cases event <;> first | exact List.map_append | exact (List.append_nil _).symm

theorem present_emit (event : LifecycleEvent) :
    (h.emit event).present feed = h.present feed := by
  cases feed <;> cases event <;> rfl

/-- An event strikes those that left off the lists of the feeds that tell of it. -/
theorem listed_emit (event : LifecycleEvent) :
    (h.emit event).listed feed =
      if (feed.message? event).isSome then h.present feed else h.listed feed := by
  cases feed <;> cases event <;> rfl

theorem subscribe_feed :
    (h.subscribe feed.topic).2 = ⟨feed.topic, (h.record feed).length⟩ := by
  rw [← sentCount_feed]
  cases feed <;> rfl

theorem record_subscribe (topic : Topic) : (h.subscribe topic).1.record feed = h.record feed := by
  cases topic <;> cases feed <;> rfl

theorem present_subscribe (other : Feed) :
    (h.subscribe other.topic).1.present feed =
      h.present feed + if other = feed then 1 else 0 := by
  cases other <;> cases feed <;> rfl

theorem listed_subscribe (other : Feed) :
    (h.subscribe other.topic).1.listed feed =
      h.listed feed + if other = feed then 1 else 0 := by
  cases other <;> cases feed <;> rfl

theorem record_leave (topic : Topic) : (h.leave topic).record feed = h.record feed := by
  cases topic <;> cases feed <;> rfl

theorem present_leave (other : Feed) :
    (h.leave other.topic).present feed = h.present feed - if other = feed then 1 else 0 := by
  cases other <;> cases feed <;> rfl

theorem listed_leave (topic : Topic) : (h.leave topic).listed feed = h.listed feed := by
  cases topic <;> cases feed <;> rfl

end Operations

end Hub

end Confine
