import Confine.Proofs.Event.Feed

/-!
The subscribers of a hub. One that has not left has received, or will receive, exactly what its feed
told since it subscribed, in order, whatever the others do.
-/

namespace Confine

/-- A hub with everyone who ever subscribed to a feed, in the order of their coming. The seat of a
subscriber that left stays empty. -/
structure Audience where
  hub : Hub
  seats : List (Option Subscription) := []

namespace Audience

inductive Deed where
  | subscribe (feed : Feed)
  | leave (seat : Nat)
  | receive (seat : Nat)
  | emit (event : LifecycleEvent)
  | notify (notice : DataNotice)
  | report (fault : EngineFault)

/-- The event that a deed announces. -/
def Deed.event? : Deed → Option LifecycleEvent
  | emit event => some event
  | _ => none

def ofCapacity (capacity : Nat) : Audience := { hub := .ofCapacity capacity }

/-- The subscription at a seat, unless its subscriber left. -/
def subscription? (a : Audience) (seat : Nat) : Option Subscription := a.seats[seat]?.join

/-- Does a deed: the audience after it, and what was received. -/
def act (a : Audience) : Deed → Audience × Option (Received Message)
  | .subscribe feed =>
    let (hub, s) := a.hub.subscribe feed.topic
    ({ hub, seats := a.seats ++ [some s] }, none)
  | .leave seat =>
    match a.subscription? seat with
    | none => (a, none)
    | some s => ({ hub := a.hub.leave s.topic, seats := a.seats.set seat none }, none)
  | .receive seat =>
    match a.subscription? seat with
    | none => (a, none)
    | some s =>
      let (s, r) := a.hub.receive false s
      ({ a with seats := a.seats.set seat (some s) }, some r)
  | .emit event => ({ a with hub := a.hub.emit event }, none)
  | .notify notice => ({ a with hub := a.hub.notify notice }, none)
  | .report fault => ({ a with hub := a.hub.report fault }, none)

def next (a : Audience) (d : Deed) : Audience := (a.act d).1

def reply (a : Audience) (d : Deed) : Option (Received Message) := (a.act d).2

def run (a : Audience) (ds : List Deed) : Audience := ds.foldl next a

/-- What the subscriber at a seat hears of a deed. -/
def hears (seat : Nat) (a : Audience) (d : Deed) : List Message :=
  match d with
  | .receive other =>
    if other = seat then
      match a.reply d with
      | some (.value message) => [message]
      | _ => []
    else []
  | _ => []

/-- What the subscriber at a seat hears in a course of deeds. -/
def heard (seat : Nat) (a : Audience) : List Deed → List Message
  | [] => []
  | d :: ds => a.hears seat d ++ (a.next d).heard seat ds

/-- All that the subscriber at a seat would receive now, up to the end of its queue. -/
def queued (a : Audience) (seat : Nat) (closed : Bool) : List (Received Message) :=
  match a.subscription? seat with
  | none => []
  | some s => (a.hub.receiveAll closed (a.hub.sentCount s.topic + 2) s).2

section Steps

variable (a : Audience) {seat other : Nat}

theorem run_append (ds ds' : List Deed) : a.run (ds ++ ds') = (a.run ds).run ds' :=
  List.foldl_append

theorem heard_append (ds ds' : List Deed) :
    a.heard seat (ds ++ ds') = a.heard seat ds ++ (a.run ds).heard seat ds' := by
  induction ds generalizing a with
  | nil => rfl
  | cons d ds ih =>
    simp only [List.cons_append, heard, ih, List.append_assoc]
    rfl

theorem subscription?_eq_some {s : Subscription} :
    a.subscription? seat = some s ↔ a.seats[seat]? = some (some s) := Option.join_eq_some_iff

theorem act_leave {s : Subscription} (hs : a.subscription? seat = some s) :
    a.act (.leave seat) =
      ({ hub := a.hub.leave s.topic, seats := a.seats.set seat none }, none) := by
  simp only [act, hs]

theorem act_receive {s : Subscription} (hs : a.subscription? seat = some s) :
    a.act (.receive seat) =
      ({ a with seats := a.seats.set seat (some (a.hub.receive false s).1) },
        some (a.hub.receive false s).2) := by
  simp only [act, hs]

theorem act_leave_empty (hs : a.subscription? seat = none) :
    a.act (.leave seat) = (a, none) := by
  simp only [act, hs]

theorem act_receive_empty (hs : a.subscription? seat = none) :
    a.act (.receive seat) = (a, none) := by
  simp only [act, hs]

/-- Only what is done at a seat changes it; new ones are added behind. -/
theorem seat_next {d : Deed} (hd : d ≠ .leave seat) (hd' : d ≠ .receive seat)
    (hlt : seat < a.seats.length) : (a.next d).seats[seat]? = a.seats[seat]? := by
  have hset (other : Nat) (s : Option Subscription) (hne : other ≠ seat) :
      (a.seats.set other s)[seat]? = a.seats[seat]? := List.getElem?_set_ne hne
  cases d with
  | subscribe => exact List.getElem?_append_left hlt
  | leave other =>
    have hne : other ≠ seat := fun he => hd (congrArg _ he)
    cases hs : a.subscription? other with
    | none => rw [next, act_leave_empty a hs]
    | some => rw [next, act_leave a hs]; exact hset other none hne
  | receive other =>
    have hne : other ≠ seat := fun he => hd' (congrArg _ he)
    cases hs : a.subscription? other with
    | none => rw [next, act_receive_empty a hs]
    | some => rw [next, act_receive a hs]; exact hset other _ hne
  | _ => rfl

theorem length_next (d : Deed) : a.seats.length ≤ (a.next d).seats.length := by
  cases d with
  | subscribe => exact List.length_append.symm ▸ Nat.le_add_right _ _
  | leave other =>
    apply Nat.le_of_eq
    cases hs : a.subscription? other with
    | none => rw [next, act_leave_empty a hs]
    | some => rw [next, act_leave a hs, List.length_set]
  | receive other =>
    apply Nat.le_of_eq
    cases hs : a.subscription? other with
    | none => rw [next, act_receive_empty a hs]
    | some => rw [next, act_receive a hs, List.length_set]
  | _ => exact Nat.le_refl _

theorem length_run (ds : List Deed) : a.seats.length ≤ (a.run ds).seats.length := by
  induction ds generalizing a with
  | nil => exact Nat.le_refl _
  | cons d ds ih => exact Nat.le_trans (a.length_next d) (ih (a.next d))

theorem hears_eq_nil {d : Deed} (hd : d ≠ .receive seat) : a.hears seat d = [] := by
  cases d with
  | receive other => exact if_neg fun he => hd (congrArg _ he)
  | _ => rfl

/-- Nobody hears at a seat that is not there yet. -/
theorem heard_of_length_le {ds : List Deed} (hle : (a.run ds).seats.length ≤ seat) :
    a.heard seat ds = [] := by
  induction ds generalizing a with
  | nil => rfl
  | cons d ds ih =>
    have hempty : a.subscription? seat = none := by
      have hlen : a.seats.length ≤ seat := Nat.le_trans (a.length_run (d :: ds)) hle
      rw [subscription?, List.getElem?_eq_none hlen]
      rfl
    have hfirst : a.hears seat d = [] := by
      by_cases hd : d = .receive seat
      · simp only [hd, hears, reply, act_receive_empty a hempty, ↓reduceIte]
      · exact a.hears_eq_nil hd
    rw [heard, hfirst, ih (a.next d) hle]
    rfl

end Steps

def Gone (a : Audience) (seat : Nat) : Prop := a.seats[seat]? = some none

/-- The subscriber at a seat follows a feed: what it heard and what waits for it was told there. -/
def Follows (a : Audience) (seat : Nat) (feed : Feed) (heard told : List Message) : Prop :=
  ∃ position, a.seats[seat]? = some (some ⟨feed.topic, position⟩) ∧
    position ≤ (a.hub.record feed).length ∧ heard ++ (a.hub.record feed).drop position = told

theorem Gone.subscription? {a : Audience} {seat : Nat} (h : a.Gone seat) :
    a.subscription? seat = none := by
  rw [Audience.subscription?, h]
  rfl

theorem Gone.next {a : Audience} {seat : Nat} (h : a.Gone seat) (d : Deed) :
    (a.next d).Gone seat := by
  have hempty := h.subscription?
  have hlt : seat < a.seats.length := (List.getElem?_eq_some_iff.mp h).1
  by_cases hd : d = .leave seat
  · rw [hd, Audience.next, act_leave_empty a hempty]
    exact h
  by_cases hd' : d = .receive seat
  · rw [hd', Audience.next, act_receive_empty a hempty]
    exact h
  · exact (a.seat_next hd hd' hlt).trans h

theorem Gone.run {a : Audience} {seat : Nat} (h : a.Gone seat) (ds : List Deed) :
    (a.run ds).Gone seat := by
  induction ds generalizing a with
  | nil => exact h
  | cons d ds ih => exact ih (h.next d)

section Follows

variable {a : Audience} {seat : Nat} {feed : Feed} {heard told : List Message}

theorem Follows.subscription? (h : a.Follows seat feed heard told) :
    ∃ position, a.subscription? seat = some ⟨feed.topic, position⟩ := by
  obtain ⟨position, hseat, -, -⟩ := h
  exact ⟨position, a.subscription?_eq_some.mpr hseat⟩

theorem Follows.leave (h : a.Follows seat feed heard told) : (a.next (.leave seat)).Gone seat := by
  obtain ⟨position, hs⟩ := h.subscription?
  obtain ⟨_, hseat, -, -⟩ := h
  have hlt : seat < a.seats.length := (List.getElem?_eq_some_iff.mp hseat).1
  rw [Gone, Audience.next, act_leave a hs]
  exact List.getElem?_set_self hlt

theorem Follows.receive (h : a.Follows seat feed heard told) :
    (a.next (.receive seat)).Follows seat feed (heard ++ a.hears seat (.receive seat)) told := by
  obtain ⟨position, hseat, hle, htold⟩ := h
  have hlt : seat < a.seats.length := (List.getElem?_eq_some_iff.mp hseat).1
  have hs := a.subscription?_eq_some.mpr hseat
  simp only [Audience.next, hears, reply, act_receive a hs, a.hub.receive_feed, ↓reduceIte]
  cases hm : (a.hub.record feed)[position]? with
  | some message =>
    obtain ⟨hp, rfl⟩ := List.getElem?_eq_some_iff.mp hm
    refine ⟨position + 1, List.getElem?_set_self hlt, hp, ?_⟩
    rw [← htold, List.drop_eq_getElem_cons hp, List.append_assoc]
    rfl
  | none =>
    refine ⟨position, List.getElem?_set_self hlt, hle, ?_⟩
    exact (List.append_nil heard).symm ▸ htold

/-- The record of a feed grows with the events that it tells of. -/
theorem record_next (a : Audience) (d : Deed) (feed : Feed) :
    (a.next d).hub.record feed = a.hub.record feed ++ (d.event?.bind feed.message?).toList := by
  cases d with
  | subscribe other =>
    exact (a.hub.record_subscribe feed other.topic).trans (List.append_nil _).symm
  | leave other =>
    cases hs : a.subscription? other with
    | none => rw [next, act_leave_empty a hs]; exact (List.append_nil _).symm
    | some s =>
      rw [next, act_leave a hs]
      exact (a.hub.record_leave feed s.topic).trans (List.append_nil _).symm
  | receive other =>
    cases hs : a.subscription? other with
    | none => rw [next, act_receive_empty a hs]; exact (List.append_nil _).symm
    | some s => rw [next, act_receive a hs]; exact (List.append_nil _).symm
  | emit event => exact a.hub.record_emit feed event
  | notify | report => cases feed <;> exact (List.append_nil _).symm

theorem Follows.next (h : a.Follows seat feed heard told) {d : Deed} (hd : d ≠ .leave seat) :
    (a.next d).Follows seat feed (heard ++ a.hears seat d)
      (told ++ (d.event?.bind feed.message?).toList) := by
  by_cases hd' : d = .receive seat
  · subst hd'
    exact (List.append_nil told).symm ▸ h.receive
  · obtain ⟨position, hseat, hle, htold⟩ := h
    have hlt : seat < a.seats.length := (List.getElem?_eq_some_iff.mp hseat).1
    refine ⟨position, (a.seat_next hd hd' hlt).trans hseat, ?_, ?_⟩
    · rw [a.record_next d feed, List.length_append]
      exact Nat.le_add_right_of_le hle
    · rw [a.hears_eq_nil hd', List.append_nil, a.record_next d feed,
        List.drop_append_of_le_length hle, ← List.append_assoc, htold]

/-- A subscriber that stays hears in the course of some deeds, or has waiting afterwards, what the
feed tells of their events. -/
theorem Follows.run (h : a.Follows seat feed heard told) {ds : List Deed}
    (hds : .leave seat ∉ ds) :
    (a.run ds).Follows seat feed (heard ++ a.heard seat ds)
      (told ++ (ds.filterMap Deed.event?).filterMap feed.message?) := by
  induction ds generalizing a heard told with
  | nil =>
    simp only [Audience.heard, List.filterMap_nil, List.append_nil]
    exact h
  | cons d ds ih =>
    rw [List.mem_cons, not_or] at hds
    have htold : ((d :: ds).filterMap Deed.event?).filterMap feed.message? =
        (d.event?.bind feed.message?).toList ++
          (ds.filterMap Deed.event?).filterMap feed.message? := by
      rw [List.filterMap_cons]
      cases d.event? with
      | none => rfl
      | some event =>
        simp only [List.filterMap_cons, Option.bind_some]
        cases feed.message? event <;> rfl
    rw [htold, Audience.heard, ← List.append_assoc, ← List.append_assoc]
    exact ih (h.next (Ne.symm hds.1)) hds.2

theorem Follows.gone (h : a.Follows seat feed heard told) {ds : List Deed}
    (hds : .leave seat ∈ ds) : (a.run ds).Gone seat := by
  induction ds generalizing a heard told with
  | nil => exact absurd hds List.not_mem_nil
  | cons d ds ih =>
    by_cases hd : d = .leave seat
    · rw [hd]
      exact h.leave.run ds
    · exact ih (h.next hd) ((List.mem_cons.mp hds).resolve_left (Ne.symm hd))

theorem Follows.queued (h : a.Follows seat feed heard told) (closed : Bool) :
    heard.map .value ++ a.queued seat closed = told.map .value ++ [.atEnd closed] := by
  obtain ⟨position, hseat, hle, htold⟩ := h
  have hs := a.subscription?_eq_some.mpr hseat
  have hbound : (a.hub.record feed).length - position < (a.hub.record feed).length + 2 := by omega
  simp only [Audience.queued, hs, a.hub.sentCount_feed, a.hub.receiveAll_feed closed feed hbound]
  rw [← htold, List.map_append, List.append_assoc]

end Follows

/-- In the course of these deeds somebody joined at a seat, and `after` is what was done from then
on. -/
def Joined (a : Audience) (ds : List Deed) (seat : Nat) (feed : Feed) (after : List Deed) : Prop :=
  ∃ before, ds = before ++ .subscribe feed :: after ∧ (a.run before).seats.length = seat

theorem follows_subscribe (a : Audience) (feed : Feed) :
    (a.next (.subscribe feed)).Follows a.seats.length feed [] [] := by
  refine ⟨(a.hub.record feed).length, ?_, ?_, ?_⟩
  · simp only [next, act, a.hub.subscribe_feed]
    exact List.getElem?_concat_length
  · simp only [next, act, a.hub.record_subscribe]
    exact Nat.le_refl _
  · simp only [next, act, a.hub.record_subscribe, List.drop_length]
    rfl

theorem Joined.follows {a : Audience} {ds after : List Deed} {seat : Nat} {feed : Feed}
    (h : a.Joined ds seat feed after) (hlive : .leave seat ∉ after) :
    (a.run ds).Follows seat feed (a.heard seat ds)
      ((after.filterMap Deed.event?).filterMap feed.message?) := by
  obtain ⟨before, rfl, rfl⟩ := h
  -- The seat is the next free one, so nobody heard anything there before.
  have hbefore := a.heard_of_length_le (Nat.le_refl (a.run before).seats.length)
  have hnow : (a.run before).hears (a.run before).seats.length (.subscribe feed) = [] := rfl
  have hafter := ((a.run before).follows_subscribe feed).run hlive
  rw [run_append, heard_append, hbefore, heard, hnow]
  exact hafter

theorem Joined.gone_iff {a : Audience} {ds after : List Deed} {seat : Nat} {feed : Feed}
    (h : a.Joined ds seat feed after) :
    (a.run ds).subscription? seat = none ↔ .leave seat ∈ after := by
  constructor
  · intro hnone
    apply Classical.byContradiction
    intro hlive
    obtain ⟨position, hs⟩ := (h.follows hlive).subscription?
    cases hs.symm.trans hnone
  · intro hmem
    obtain ⟨before, rfl, rfl⟩ := h
    have hgone := ((a.run before).follows_subscribe feed).gone hmem
    exact (run_append ..).symm ▸ hgone.subscription?

end Audience

end Confine
