import Mathlib.Data.List.Forall2
import Confine.Proofs.Event.Audience

/-!
Lifecycle events reach every subscriber. The hub answers its subscribers as one would that gives
each of them a queue, and no event is lost in one.
-/

namespace Confine

/-- Where the owner of a box stands with the hub. -/
inductive Standing where
  | here
  /-- It left, and the hub does not know yet. -/
  | left
  | struckOff
deriving DecidableEq

/-- A subscriber with a queue of its own. -/
structure Mailbox where
  feed : Feed
  queue : List Message := []
  standing : Standing := .here

namespace Mailbox

def listed (feed : Feed) (b : Mailbox) : Bool := b.feed = feed ∧ b.standing ≠ .struckOff

/-- Whether the owner of the box is one of those on a feed who have not left. -/
def present (feed : Feed) (b : Mailbox) : Bool := b.feed = feed ∧ b.standing = .here

/-- A message is sent to a box: it goes to the queue, or the hub learns that the owner left. -/
def deliver (message : Message) (b : Mailbox) : Mailbox :=
  match b.standing with
  | .here => { b with queue := b.queue ++ [message] }
  | _ => { b with standing := .struckOff }

def take (feed : Feed) (message : Message) (b : Mailbox) : Mailbox :=
  if b.listed feed then b.deliver message else b

end Mailbox

/-- The subscribers of a hub that gives each of them a queue, in the order of their coming. -/
structure Mailroom where
  boxes : List Mailbox := []

namespace Mailroom

open Audience (Deed)

def send (r : Mailroom) (feed : Feed) (message : Message) : Mailroom :=
  { boxes := r.boxes.map (Mailbox.take feed message) }

/-- Sends an event on the feed of its kind and then on the ordered one. -/
def emit (r : Mailroom) (event : LifecycleEvent) : Mailroom :=
  (r.send event.feed event.payload).send .ordered (.lifecycle event)

/-- The box at a seat, unless its owner left. -/
def box? (r : Mailroom) (seat : Nat) : Option Mailbox :=
  r.boxes[seat]?.filter (·.standing = .here)

def act (r : Mailroom) : Deed → Mailroom × Option (Received Message)
  | .subscribe feed => ({ boxes := r.boxes ++ [{ feed }] }, none)
  | .leave seat =>
    match r.box? seat with
    | none => (r, none)
    | some b => ({ boxes := r.boxes.set seat { b with standing := .left } }, none)
  | .receive seat =>
    match r.box? seat with
    | none => (r, none)
    | some b =>
      match b.queue with
      | [] => (r, some .empty)
      | message :: queue => ({ boxes := r.boxes.set seat { b with queue } }, some (.value message))
  | .emit event => (r.emit event, none)
  | .notify _ | .report _ => (r, none)

def next (r : Mailroom) (d : Deed) : Mailroom := (r.act d).1

def reply (r : Mailroom) (d : Deed) : Option (Received Message) := (r.act d).2

def run (r : Mailroom) (ds : List Deed) : Mailroom := ds.foldl next r

end Mailroom

namespace Mailbox

/-- What an event does to a box, on the feed of its kind and on the ordered one. -/
def hear (event : LifecycleEvent) (b : Mailbox) : Mailbox :=
  (b.take event.feed event.payload).take .ordered (.lifecycle event)

/-- A box is sent what its feed tells of the event, once. -/
theorem hear_eq (event : LifecycleEvent) (b : Mailbox) :
    b.hear event =
      match b.feed.message? event with
      | some message => b.deliver message
      | none => b := by
  obtain ⟨feed, queue, standing⟩ := b
  cases feed <;> cases event <;> cases standing <;> rfl

theorem hear_feed (event : LifecycleEvent) (b : Mailbox) : (b.hear event).feed = b.feed := by
  obtain ⟨feed, queue, standing⟩ := b
  rw [hear_eq]
  cases feed.message? event <;> cases standing <;> rfl

theorem hear_standing (event : LifecycleEvent) (b : Mailbox) :
    (b.hear event).standing = .here ↔ b.standing = .here := by
  obtain ⟨feed, queue, standing⟩ := b
  rw [hear_eq]
  cases feed.message? event with
  | none => rfl
  | some => cases standing <;> simp [deliver]

theorem present_hear (event : LifecycleEvent) (feed : Feed) (b : Mailbox) :
    (b.hear event).present feed = b.present feed := by
  simp only [present, hear_feed, hear_standing]

/-- After an event, those are on the list of a feed that tells of it who have not left. -/
theorem listed_hear (event : LifecycleEvent) (feed : Feed) (b : Mailbox) :
    (b.hear event).listed feed =
      if (feed.message? event).isSome then b.present feed else b.listed feed := by
  by_cases hf : b.feed = feed
  · obtain ⟨own, queue, standing⟩ := b
    subst hf
    rw [hear_eq]
    cases own.message? event with
    | none => rfl
    | some => cases standing <;> simp [listed, present, deliver]
  · simp [listed, present, hear_feed, hf]

end Mailbox

namespace Mailroom

variable (r : Mailroom) {seat : Nat} {b : Mailbox}

theorem emit_boxes (event : LifecycleEvent) :
    (r.emit event).boxes = r.boxes.map (Mailbox.hear event) := List.map_map

theorem box?_eq_some : r.box? seat = some b ↔ r.boxes[seat]? = some b ∧ b.standing = .here := by
  rw [box?, Option.filter_eq_some_iff, decide_eq_true_iff]

theorem countP_set (hb : r.box? seat = some b) (p : Mailbox → Bool) (b' : Mailbox) :
    (r.boxes.set seat b').countP p =
      r.boxes.countP p - (if p b then 1 else 0) + if p b' then 1 else 0 := by
  obtain ⟨hlt, rfl⟩ := List.getElem?_eq_some_iff.mp (r.box?_eq_some.mp hb).1
  exact List.countP_set hlt

theorem countP_set_of_eq (hb : r.box? seat = some b) {p : Mailbox → Bool} {b' : Mailbox}
    (hp : p b' = p b) : (r.boxes.set seat b').countP p = r.boxes.countP p := by
  rw [r.countP_set hb, hp]
  split
  · next hpb =>
    have hmem : b ∈ r.boxes := List.mem_of_getElem? (r.box?_eq_some.mp hb).1
    exact Nat.sub_add_cancel (List.countP_pos_iff.mpr ⟨b, hmem, hpb⟩)
  · rfl

end Mailroom

/-- A seat at a hub and a box are of one subscriber: the same messages wait for it. -/
inductive Hub.Serves (h : Hub) : Option Subscription → Mailbox → Prop where
  | gone {b : Mailbox} (hb : b.standing ≠ .here) : h.Serves none b
  | here {feed : Feed} {position : Nat} (hle : position ≤ (h.record feed).length) :
    h.Serves (some ⟨feed.topic, position⟩) { feed, queue := (h.record feed).drop position }

namespace Hub

variable {h h' : Hub} {s : Option Subscription} {b : Mailbox}

theorem Serves.congr (hs : h.Serves s b) (hr : ∀ feed, h'.record feed = h.record feed) :
    h'.Serves s b := by
  cases hs with
  | gone hb => exact .gone hb
  | @here feed position hle =>
    rw [← hr feed] at hle ⊢
    exact .here hle

theorem Serves.emit (hs : h.Serves s b) (event : LifecycleEvent) :
    (h.emit event).Serves s (b.hear event) := by
  cases hs with
  | gone hb => exact .gone fun hhere => hb ((b.hear_standing event).mp hhere)
  | @here feed position hle =>
    have hrecord := h.record_emit feed event
    have hqueue : (h.record feed ++ (feed.message? event).toList).drop position =
        (h.record feed).drop position ++ (feed.message? event).toList :=
      List.drop_append_of_le_length hle
    have hbox : Mailbox.hear event { feed, queue := (h.record feed).drop position } =
        { feed, queue := ((h.emit event).record feed).drop position } := by
      rw [Mailbox.hear_eq, hrecord, hqueue]
      cases feed.message? event with
      | none => simp only [Option.toList_none, List.append_nil]
      | some => rfl
    rw [hbox]
    apply Serves.here
    rw [hrecord, List.length_append]
    exact Nat.le_add_right_of_le hle

end Hub

section Parallel

variable {α β : Type} {R : α → β → Prop} {xs : List α} {ys : List β}

theorem forall₂_set (h : List.Forall₂ R xs ys) (n : Nat) {x : α} {y : β} (hxy : R x y) :
    List.Forall₂ R (xs.set n x) (ys.set n y) := by
  induction h generalizing n with
  | nil => exact .nil
  | cons hhead htail ih =>
    cases n with
    | zero => exact .cons hxy htail
    | succ n => exact .cons hhead (ih n)

theorem forall₂_getElem? (h : List.Forall₂ R xs ys) (n : Nat) :
    (xs[n]? = none ∧ ys[n]? = none) ∨ ∃ x y, xs[n]? = some x ∧ ys[n]? = some y ∧ R x y := by
  induction h generalizing n with
  | nil => exact .inl ⟨rfl, rfl⟩
  | cons hhead htail ih =>
    cases n with
    | zero => exact .inr ⟨_, _, rfl, rfl, hhead⟩
    | succ n => exact ih n

theorem forall₂_countP (h : List.Forall₂ R xs ys) {p : α → Bool} {q : β → Bool}
    (hpq : ∀ x y, R x y → p x = q y) : xs.countP p = ys.countP q := by
  induction h with
  | nil => rfl
  | cons hhead htail ih => rw [List.countP_cons, List.countP_cons, ih, hpq _ _ hhead]

end Parallel

/-- A hub with its audience and a room with queues are at the same point. -/
structure Audience.Matches (a : Audience) (r : Mailroom) : Prop where
  seats : List.Forall₂ a.hub.Serves a.seats r.boxes
  listed : ∀ feed, a.hub.listed feed = r.boxes.countP (·.listed feed)
  present : ∀ feed, a.hub.present feed = r.boxes.countP (·.present feed)

namespace Audience

variable {a : Audience} {r : Mailroom}

theorem Matches.found (h : a.Matches r) (seat : Nat) :
    (a.subscription? seat = none ∧ r.box? seat = none) ∨
    ∃ feed position, position ≤ (a.hub.record feed).length ∧
      a.subscription? seat = some ⟨feed.topic, position⟩ ∧
      r.box? seat = some { feed, queue := (a.hub.record feed).drop position } := by
  rcases forall₂_getElem? h.seats seat with ⟨hs, hb⟩ | ⟨s, b, hs, hb, hserves⟩
  · left
    rw [subscription?, Mailroom.box?, hs, hb]
    exact ⟨rfl, rfl⟩
  · cases hserves with
    | gone hgone =>
      left
      rw [subscription?, Mailroom.box?, hs, hb]
      exact ⟨rfl, by simp [hgone]⟩
    | @here feed position hle =>
      right
      refine ⟨feed, position, hle, ?_, ?_⟩
      · rw [subscription?, hs]
        rfl
      · rw [Mailroom.box?, hb]
        rfl

theorem matches_ofCapacity (capacity : Nat) : (ofCapacity capacity).Matches {} where
  seats := .nil
  listed feed := Hub.listed_ofCapacity feed capacity
  present feed := Hub.present_ofCapacity feed capacity

theorem Matches.subscribe (h : a.Matches r) (feed : Feed) :
    (a.next (.subscribe feed)).Matches (r.next (.subscribe feed)) := by
  have hseats := h.seats.imp fun s b hs =>
    hs.congr fun other => a.hub.record_subscribe other feed.topic
  have hnew : (a.hub.subscribe feed.topic).1.Serves
      (some (a.hub.subscribe feed.topic).2) { feed } := by
    have hend : a.hub.Serves (some ⟨feed.topic, (a.hub.record feed).length⟩)
        { feed, queue := (a.hub.record feed).drop (a.hub.record feed).length } :=
      .here (Nat.le_refl _)
    rw [List.drop_length] at hend
    rw [a.hub.subscribe_feed]
    exact hend.congr fun other => a.hub.record_subscribe other feed.topic
  constructor
  · exact List.rel_append hseats (.cons hnew .nil)
  · intro other
    simp only [next, act, Mailroom.next, Mailroom.act, a.hub.listed_subscribe, h.listed,
      List.countP_append]
    simp [Mailbox.listed]
  · intro other
    simp only [next, act, Mailroom.next, Mailroom.act, a.hub.present_subscribe, h.present,
      List.countP_append]
    simp [Mailbox.present]

theorem Matches.emit (h : a.Matches r) (event : LifecycleEvent) :
    (a.next (.emit event)).Matches (r.next (.emit event)) := by
  have hboxes : (r.next (.emit event)).boxes = r.boxes.map (Mailbox.hear event) :=
    r.emit_boxes event
  -- The seats stay as they are: what is new for them is in the record, for the boxes in the queues.
  constructor
  · rw [hboxes, List.forall₂_map_right_iff]
    exact h.seats.imp fun s b hs => hs.emit event
  · intro feed
    have hlisted : (Mailbox.listed feed) ∘ Mailbox.hear event =
        if (feed.message? event).isSome then Mailbox.present feed else Mailbox.listed feed := by
      funext b
      rw [Function.comp, b.listed_hear]
      split <;> rfl
    rw [hboxes, List.countP_map, hlisted]
    refine (a.hub.listed_emit feed event).trans ?_
    split
    · exact h.present feed
    · exact h.listed feed
  · intro feed
    have hpresent : (Mailbox.present feed) ∘ Mailbox.hear event = Mailbox.present feed :=
      funext fun b => b.present_hear event feed
    rw [hboxes, List.countP_map, hpresent]
    exact (a.hub.present_emit feed event).trans (h.present feed)

theorem Matches.leave (h : a.Matches r) (seat : Nat) :
    (a.next (.leave seat)).Matches (r.next (.leave seat)) := by
  rcases h.found seat with ⟨hs, hb⟩ | ⟨feed, position, hle, hs, hb⟩
  · simp only [next, act_leave_empty a hs, Mailroom.next, Mailroom.act, hb]
    exact h
  · simp only [next, act_leave a hs, Mailroom.next, Mailroom.act, hb]
    constructor
    · apply forall₂_set
      · exact h.seats.imp fun s b hserves =>
          hserves.congr fun other => a.hub.record_leave other feed.topic
      · exact .gone Standing.noConfusion
    · intro other
      rw [a.hub.listed_leave, h.listed, r.countP_set_of_eq hb]
      simp [Mailbox.listed]
    · intro other
      rw [a.hub.present_leave, h.present, r.countP_set hb]
      simp [Mailbox.present]

theorem Matches.receive (h : a.Matches r) (seat : Nat) :
    (a.next (.receive seat)).Matches (r.next (.receive seat)) ∧
      a.reply (.receive seat) = r.reply (.receive seat) := by
  rcases h.found seat with ⟨hs, hb⟩ | ⟨feed, position, hle, hs, hb⟩
  · simp only [next, reply, act_receive_empty a hs, Mailroom.next, Mailroom.reply, Mailroom.act, hb]
    exact ⟨h, trivial⟩
  · simp only [next, reply, act_receive a hs, a.hub.receive_feed, Mailroom.next, Mailroom.reply,
      Mailroom.act, hb]
    cases hm : (a.hub.record feed)[position]? with
    | some message =>
      obtain ⟨hp, rfl⟩ := List.getElem?_eq_some_iff.mp hm
      simp only [List.drop_eq_getElem_cons hp]
      refine ⟨⟨forall₂_set h.seats seat (.here hp), fun other => ?_, fun other => ?_⟩, trivial⟩
      · rw [h.listed, r.countP_set_of_eq hb]
        rfl
      · rw [h.present, r.countP_set_of_eq hb]
        rfl
    | none =>
      have hp := List.getElem?_eq_none_iff.mp hm
      have hstay : a.seats.set seat (some ⟨feed.topic, position⟩) = a.seats := by
        obtain ⟨hlt, hseat⟩ := List.getElem?_eq_some_iff.mp (a.subscription?_eq_some.mp hs)
        rw [← hseat, List.set_getElem_self]
      simp only [List.drop_eq_nil_of_le hp, hstay]
      exact ⟨h, rfl⟩

/-- The hub and the queues give the same answer, and stay at the same point. -/
theorem Matches.next (h : a.Matches r) (d : Deed) :
    (a.next d).Matches (r.next d) ∧ a.reply d = r.reply d := by
  have hsilent (hub : Hub) (hr : ∀ feed, hub.record feed = a.hub.record feed)
      (hl : ∀ feed, hub.listed feed = a.hub.listed feed)
      (hp : ∀ feed, hub.present feed = a.hub.present feed) :
      ({ a with hub } : Audience).Matches r :=
    ⟨h.seats.imp fun s b hs => hs.congr hr, fun feed => (hl feed).trans (h.listed feed),
      fun feed => (hp feed).trans (h.present feed)⟩
  -- Only the first four kinds of deeds touch a feed; notices and faults have channels of their own.
  cases d with
  | subscribe feed => exact ⟨h.subscribe feed, rfl⟩
  | leave seat =>
    refine ⟨h.leave seat, ?_⟩
    rcases h.found seat with ⟨hs, hb⟩ | ⟨_, _, _, hs, hb⟩
    · simp only [reply, act_leave_empty a hs, Mailroom.reply, Mailroom.act, hb]
    · simp only [reply, act_leave a hs, Mailroom.reply, Mailroom.act, hb]
  | receive seat => exact h.receive seat
  | emit event => exact ⟨h.emit event, rfl⟩
  | notify | report =>
    refine ⟨hsilent _ ?_ ?_ ?_, rfl⟩ <;> intro feed <;> cases feed <;> rfl

theorem Matches.run (h : a.Matches r) (ds : List Deed) : (a.run ds).Matches (r.run ds) := by
  induction ds generalizing a r with
  | nil => exact h
  | cons d ds ih => exact ih (h.next d).1

theorem Matches.queued (h : a.Matches r) {seat : Nat} {b : Mailbox} (hb : r.box? seat = some b)
    (closed : Bool) : a.queued seat closed = b.queue.map .value ++ [.atEnd closed] := by
  rcases h.found seat with ⟨-, hb'⟩ | ⟨feed, position, hle, hs, hb'⟩
  · cases hb.symm.trans hb'
  · cases hb.symm.trans hb'
    have hfollows : a.Follows seat feed [] ((a.hub.record feed).drop position) :=
      ⟨position, a.subscription?_eq_some.mp hs, hle, rfl⟩
    exact hfollows.queued closed

/-- The subscribers of a feed that have not left are those who still sit there. -/
theorem Matches.present_eq (h : a.Matches r) (feed : Feed) :
    a.hub.present feed = a.seats.countP (·.any (·.topic = feed.topic)) := by
  rw [h.present]
  refine (forall₂_countP h.seats fun s b hs => ?_).symm
  cases hs with
  | gone hb => simp [Mailbox.present, hb]
  | @here own position hle =>
    have hown : own.topic = feed.topic ↔ own = feed := ⟨Feed.topic_inj, congrArg _⟩
    simp [Mailbox.present, hown]

/-- No lifecycle event is lost on the way to a subscriber, be it slow, or the events many, or the
other channels short. -/
theorem lossless (capacity : Nat) :
    let start := ofCapacity capacity
    let told ds seat closed := (start.heard seat ds).map .value ++ (start.run ds).queued seat closed
    (∀ ds seat feed after, start.Joined ds seat feed after →
      ((start.run ds).subscription? seat = none ↔ .leave seat ∈ after) ∧
      (.leave seat ∉ after → ∀ closed, told ds seat closed =
        ((after.filterMap Deed.event?).filterMap feed.message?).map .value ++ [.atEnd closed])) ∧
    (∀ ds seat seat' feed after after', start.Joined ds seat .ordered after →
      start.Joined ds seat' feed after' → .leave seat ∉ after → .leave seat' ∉ after' →
      after.filterMap Deed.event? = after'.filterMap Deed.event? →
      ∀ closed, told ds seat' closed = (told ds seat closed).filterMap feed.projectReceived) ∧
    (∀ ds event, ((start.run ds).next (.emit event)).hub.lifecycleSubscribers =
      (start.run ds).seats.countP (·.any (·.topic = .lifecycle))) ∧
    (∀ ds, (∀ d, (start.run ds).reply d = (Mailroom.run {} ds).reply d) ∧
      (∀ feed, (start.run ds).hub.listed feed =
        (Mailroom.run {} ds).boxes.countP (·.listed feed)) ∧
      ∀ seat b, (Mailroom.run {} ds).box? seat = some b → ∀ closed,
        (start.run ds).queued seat closed = b.queue.map .value ++ [.atEnd closed]) := by
  intro start told
  have hmatches (ds : List Deed) : (start.run ds).Matches (Mailroom.run {} ds) :=
    (matches_ofCapacity capacity).run ds
  have htold (ds : List Deed) (seat : Nat) (feed : Feed) (after : List Deed)
      (h : start.Joined ds seat feed after) (hlive : .leave seat ∉ after) (closed : Bool) :
      told ds seat closed =
        ((after.filterMap Deed.event?).filterMap feed.message?).map .value ++ [.atEnd closed] :=
    (h.follows hlive).queued closed
  refine ⟨fun ds seat feed after h => ⟨h.gone_iff, htold ds seat feed after h⟩, ?projected,
    ?counted, fun ds => ⟨fun d => ((hmatches ds).next d).2, (hmatches ds).listed,
      fun seat b hb closed => (hmatches ds).queued hb closed⟩⟩
  case projected =>
    intro ds seat seat' feed after after' h h' hlive hlive' hsame closed
    rw [htold ds seat .ordered after h hlive closed, htold ds seat' feed after' h' hlive' closed,
      hsame, feed.filterMap_projectReceived]
  case counted =>
    intro ds event
    have hlisted := (start.run ds).hub.listed_emit .ordered event
    exact hlisted.trans ((hmatches ds).present_eq .ordered)

/-- The subscriber to all events lags behind in a hub with the smallest channels. -/
theorem laggard_told_all :
    let ds : List Deed := [.emit .started, .subscribe .ordered, .subscribe .exit,
      .emit (.signal 9), .receive 0, .leave 1, .emit (.exit 137)]
    (ofCapacity 1).Joined ds 0 .ordered (ds.drop 2) ∧
      ((ofCapacity 1).heard 0 ds).map .value ++ ((ofCapacity 1).run ds).queued 0 true =
        [.value (.lifecycle (.signal 9)), .value (.lifecycle (.exit 137)), .atEnd true] := by
  intro ds
  have hjoined : (ofCapacity 1).Joined ds 0 .ordered (ds.drop 2) := ⟨[.emit .started], rfl, rfl⟩
  obtain ⟨htold, -⟩ := lossless 1
  exact ⟨hjoined, (htold ds 0 .ordered _ hjoined).2 (by simp [ds]) true⟩

/-- One that left stays on the list up to the next event. -/
example :
    let a := (ofCapacity 8).run [.subscribe .ordered, .subscribe .ordered, .leave 1]
    a.hub.lifecycleSubscribers = 2 ∧
      (a.next (.emit .started)).hub.lifecycleSubscribers = 1 := by
  decide

end Audience

end Confine
