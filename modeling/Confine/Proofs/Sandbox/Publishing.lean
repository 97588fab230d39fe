import Confine.Proofs.Event.Record
import Confine.Proofs.Sandbox.Integrity
import Confine.Proofs.Sandbox.Postponement

/-!
What a course publishes about the output of the child. A notice goes out for each part of a chunk
that a reader kept, and a fault for each part that it dropped, so that both agree with the books of
the reader.
-/

namespace Confine

/-- The length that a notice tells of a descriptor. -/
def DataNotice.lenOf? (fd : Int) (n : DataNotice) : Option Nat :=
  if n.fd = fd then some n.len else none

/-- The number of bytes that a fault tells were dropped on a descriptor. -/
def EngineFault.droppedOf? (fd : Int) : EngineFault → Option Nat
  | .bytesDropped fd' count => if fd' = fd then some count else none
  | .unknownDescriptor _ => none

theorem sum_filter_pos (l : List Nat) : (l.filter (0 < ·)).sum = l.sum := by
  induction l with
  | nil => rfl
  | cons n l ih =>
    cases n with
    | zero => simpa using ih
    | succ n => simpa using ih

theorem EngineFault.droppedOf?_of_isStray {fault : EngineFault} (h : fault.isStray = true)
    (fd : Int) : fault.droppedOf? fd = none := by
  cases fault with
  | unknownDescriptor => rfl
  | bytesDropped => cases h

namespace Hub

theorem grows_publish (h : Hub) (notices : List DataNotice) (faults : List EngineFault) :
    h.Grows (h.publish notices faults) notices faults :=
  ⟨fun hs => hs.congr rfl rfl rfl rfl rfl, rfl, rfl⟩

/-- The lengths that the notices so far tell of a stream. -/
def lens (h : Hub) (stream : Stream) : List Nat :=
  h.data.sent.filterMap (DataNotice.lenOf? stream.fd)

/-- The numbers of bytes that the faults so far tell were dropped on a stream. -/
def drops (h : Hub) (stream : Stream) : List Nat :=
  h.faults.sent.filterMap (EngineFault.droppedOf? stream.fd)

theorem len_mem_lens {h : Hub} {stream : Stream} {n : DataNotice} (hn : n ∈ h.data.sent)
    (hfd : n.fd = stream.fd) : n.len ∈ h.lens stream :=
  List.mem_filterMap.mpr ⟨n, hn, if_pos hfd⟩

theorem count_mem_drops {h : Hub} {stream : Stream} {fd : Int} {count : Nat}
    (hf : .bytesDropped fd count ∈ h.faults.sent) (hfd : fd = stream.fd) :
    count ∈ h.drops stream :=
  List.mem_filterMap.mpr ⟨_, hf, if_pos hfd⟩

/-- The records about output are what came of the offers to the readers, and nothing else. -/
structure Tells (h : Hub) (offers : Stream → List Offer) : Prop where
  lens : ∀ stream, h.lens stream = ((offers stream).map fun o => o.kept.length).filter (0 < ·)
  drops : ∀ stream, h.drops stream = ((offers stream).map Offer.lost).filter (0 < ·)
  notices : ∀ n ∈ h.data.sent, ∃ stream : Stream, n.fd = stream.fd
  faults : ∀ fd count, .bytesDropped fd count ∈ h.faults.sent → ∃ stream : Stream, fd = stream.fd

section Tells

variable {h : Hub} {offers : Stream → List Offer} (ht : h.Tells offers)

include ht

theorem Tells.len_pos {n : DataNotice} (hn : n ∈ h.data.sent) : 0 < n.len := by
  obtain ⟨stream, hfd⟩ := ht.notices n hn
  have hlen := len_mem_lens hn hfd
  rw [ht.lens, List.mem_filter] at hlen
  exact of_decide_eq_true hlen.2

theorem Tells.count_pos {fd : Int} {count : Nat} (hf : .bytesDropped fd count ∈ h.faults.sent) :
    0 < count := by
  obtain ⟨stream, hfd⟩ := ht.faults fd count hf
  have hcount := count_mem_drops hf hfd
  rw [ht.drops, List.mem_filter] at hcount
  exact of_decide_eq_true hcount.2

end Tells

end Hub

namespace PushOutcome

variable {stream : Stream} {bytes : Bytes} {outcome : PushOutcome}

theorem fd_of_mem_notices {n : DataNotice} (h : n ∈ outcome.notices stream bytes) :
    n.fd = stream.fd := by
  cases outcome with
  | buffered ready =>
    simp only [notices] at h
    split at h
    · cases h
    · rw [List.mem_singleton.mp h]
  | truncated accepted dropped =>
    simp only [notices] at h
    split at h
    · cases h
    · rw [List.mem_singleton.mp h]
  | closed => cases h

theorem fd_of_mem_faults {fd : Int} {count : Nat}
    (h : .bytesDropped fd count ∈ outcome.faults stream) : fd = stream.fd := by
  cases outcome with
  | truncated accepted dropped =>
    cases List.mem_singleton.mp h
    rfl
  | _ => cases h

end PushOutcome

namespace Reader

/-- An open reader publishes the size of what it keeps of a chunk and of what it drops, unless that
is nothing. -/
theorem push_published {r : Reader} (hr : r.WellFormed) (hc : r.closed = false) (stream : Stream)
    (bytes : Bytes) :
    ((r.push bytes).2.notices stream bytes).filterMap (DataNotice.lenOf? stream.fd) =
        [(r.kept bytes).length].filter (0 < ·) ∧
      ((r.push bytes).2.faults stream).filterMap (EngineFault.droppedOf? stream.fd) =
        [bytes.length - (r.kept bytes).length].filter (0 < ·) := by
  -- Only a chunk that does not fit leaves a fault; a notice follows if there was any room at all.
  rcases push_cases bytes hc with ⟨hkept, hpush⟩ | ⟨capacity, hp, hover, htake, hpush⟩
  · rw [hpush, hkept, Nat.sub_self]
    refine ⟨?_, rfl⟩
    by_cases hb : bytes = []
    · simp [PushOutcome.notices, hb]
    · have hlen : 0 < bytes.length := List.length_pos_iff.mpr hb
      simp [PushOutcome.notices, hb, DataNotice.lenOf?, hlen]
  · have hbound := hr.bounded capacity hp
    have hroom : r.room capacity < bytes.length := by
      rw [room]
      omega
    have hkept : (r.kept bytes).length = r.room capacity := by
      rw [htake, List.length_take]
      omega
    have hlost : 0 < bytes.length - r.room capacity := by omega
    rw [hpush, hkept]
    refine ⟨?_, ?_⟩
    · by_cases hz : r.room capacity = 0
      · simp [PushOutcome.notices, hz]
      · simp [PushOutcome.notices, hz, DataNotice.lenOf?, Nat.pos_of_ne_zero hz]
    · simp [PushOutcome.faults, EngineFault.droppedOf?, hlost]

end Reader

namespace Sandbox

/-- The notices that follow an event. -/
def noticesOf (s : Sandbox) : EngineEvent → List DataNotice
  | .data fd bytes =>
    match Stream.ofFd? fd with
    | none => []
    | some stream => ((s.reader stream).push bytes).2.notices stream bytes
  | _ => []

/-- The notices that follow events when they are applied one after the other. -/
def replayNotices (s : Sandbox) : List EngineEvent → List DataNotice
  | [] => []
  | e :: es => s.noticesOf e ++ (s.apply e).1.replayNotices es

theorem offer?_of_closed {s : Sandbox} {stream : Stream}
    (h : (s.reader stream).closed = true) (e : EngineEvent) : s.offer? stream e = none := by
  rw [offer?]
  split
  · exact if_pos h
  · rfl

theorem noticesOf_data (s : Sandbox) (stream : Stream) (bytes : Bytes) :
    s.noticesOf (.data stream.fd bytes) =
      ((s.reader stream).push bytes).2.notices stream bytes := by
  simp only [noticesOf, Stream.ofFd?_fd]

theorem faultsOf_data (s : Sandbox) (stream : Stream) (bytes : Bytes) :
    s.faultsOf (.data stream.fd bytes) = ((s.reader stream).push bytes).2.faults stream := by
  simp only [faultsOf, Stream.ofFd?_fd]

theorem noticesOf_unknown (s : Sandbox) {fd : Int} (h : ¬(fd = 1 ∨ fd = 2)) (bytes : Bytes) :
    s.noticesOf (.data fd bytes) = [] := by
  simp only [noticesOf, Stream.ofFd?_eq_none.mpr h]

theorem faultsOf_unknown (s : Sandbox) {fd : Int} (h : ¬(fd = 1 ∨ fd = 2)) (bytes : Bytes) :
    s.faultsOf (.data fd bytes) = [.unknownDescriptor fd] := by
  simp only [faultsOf, Stream.ofFd?_eq_none.mpr h]

theorem published_of_ending (s : Sandbox) {e : EngineEvent} {t : Termination}
    (h : e.ending? = some t) : s.noticesOf e = [] ∧ s.faultsOf e = [] := by
  cases e with
  | data fd bytes => cases h
  | _ => exact ⟨rfl, rfl⟩

theorem Applied.grows {s : Sandbox} {e : EngineEvent} {p : Sandbox × Except SandboxError Bool}
    (h : s.Applied e p) : s.hub.Grows p.1.hub (s.noticesOf e) (s.faultsOf e) := by
  cases h with
  | unknown fd bytes hu =>
    rw [s.noticesOf_unknown hu, s.faultsOf_unknown hu]
    exact s.hub.grows_report _
  | routed stream bytes =>
    rw [noticesOf_data, faultsOf_data, route_eq]
    exact s.hub.grows_publish _ _
  | ended _ t event ht =>
    obtain ⟨hnotices, hfaults⟩ := s.published_of_ending ht
    rw [hnotices, hfaults]
    exact s.hub.grows_emit event
  | late _ t ht =>
    obtain ⟨hnotices, hfaults⟩ := s.published_of_ending ht
    rw [hnotices, hfaults]
    exact .refl _
  | announced path => exact s.hub.grows_emit _
  | ignored path => exact .refl _

theorem replay_grows (s : Sandbox) (es : List EngineEvent) :
    s.hub.Grows (s.replay es).hub (s.replayNotices es) (s.replayFaults es) := by
  induction es generalizing s with
  | nil => exact .refl _
  | cons e es ih => exact (s.applied e).grows.trans (ih (s.apply e).1)

/-- What is published about a stream tells what became of the offers to its reader. -/
theorem published_of_offer {s : Sandbox} {stream : Stream} (hr : (s.reader stream).WellFormed)
    (e : EngineEvent) :
    (s.noticesOf e).filterMap (DataNotice.lenOf? stream.fd) =
        ((s.offer? stream e).toList.map fun o => o.kept.length).filter (0 < ·) ∧
      (s.faultsOf e).filterMap (EngineFault.droppedOf? stream.fd) =
        ((s.offer? stream e).toList.map Offer.lost).filter (0 < ·) := by
  cases e with
  | data fd bytes =>
    cases hf : Stream.ofFd? fd with
    | none =>
      have hu := Stream.ofFd?_eq_none.mp hf
      have hk : (EngineEvent.data fd bytes).known = false := decide_eq_false hu
      rw [s.noticesOf_unknown hu, s.faultsOf_unknown hu,
        s.offer?_of_no_chunk (EngineEvent.chunk?_of_unknown hk stream)]
      exact ⟨rfl, rfl⟩
    | some source =>
      cases Stream.ofFd?_eq_some.mp hf
      rw [noticesOf_data, faultsOf_data]
      by_cases hs : stream = source
      · subst hs
        rw [offer?_data]
        cases hc : (s.reader stream).closed with
        | true =>
          rw [Reader.push_of_closed _ _ hc]
          exact ⟨rfl, rfl⟩
        | false => exact Reader.push_published hr hc stream bytes
      · -- The chunk is for the other stream, and so is all that is published about it.
        have hfd : source.fd ≠ stream.fd := by
          intro h
          exact hs (Option.some.inj
            ((Stream.ofFd?_fd stream).symm.trans (h ▸ Stream.ofFd?_fd source)))
        rw [s.offer?_data_ne bytes hs]
        refine ⟨List.filterMap_eq_nil_iff.mpr fun n hn => ?_,
          List.filterMap_eq_nil_iff.mpr fun fault hfault => ?_⟩
        · rw [DataNotice.lenOf?, PushOutcome.fd_of_mem_notices hn, if_neg hfd]
        · cases fault with
          | unknownDescriptor => rfl
          | bytesDropped fd count =>
            rw [EngineFault.droppedOf?, PushOutcome.fd_of_mem_faults hfault, if_neg hfd]
  | _ => exact ⟨rfl, rfl⟩

theorem published_of_offers {s : Sandbox} {stream : Stream} (hr : (s.reader stream).WellFormed)
    (es : List EngineEvent) :
    (s.replayNotices es).filterMap (DataNotice.lenOf? stream.fd) =
        ((s.offers stream es).map fun o => o.kept.length).filter (0 < ·) ∧
      (s.replayFaults es).filterMap (EngineFault.droppedOf? stream.fd) =
        ((s.offers stream es).map Offer.lost).filter (0 < ·) := by
  induction es generalizing s with
  | nil => exact ⟨rfl, rfl⟩
  | cons e es ih =>
    obtain ⟨hnotices, hfaults⟩ := published_of_offer hr e
    obtain ⟨hnotices', hfaults'⟩ :=
      ih (((s.applied e).dealings stream).turnover.wellFormed hr)
    rw [replayNotices, replayFaults, offers, List.filterMap_append, List.filterMap_append,
      List.map_append, List.map_append, List.filter_append, List.filter_append, hnotices,
      hfaults, hnotices', hfaults']
    exact ⟨rfl, rfl⟩

theorem fd_of_mem_replayNotices {s : Sandbox} {es : List EngineEvent} {n : DataNotice}
    (h : n ∈ s.replayNotices es) : ∃ stream : Stream, n.fd = stream.fd := by
  induction es generalizing s with
  | nil => cases h
  | cons e es ih =>
    rcases List.mem_append.mp h with h | h
    · cases e with
      | data fd bytes =>
        simp only [noticesOf] at h
        split at h
        · cases h
        · exact ⟨_, PushOutcome.fd_of_mem_notices h⟩
      | _ => cases h
    · exact ih h

theorem fd_of_mem_replayFaults {s : Sandbox} {es : List EngineEvent} {fd : Int} {count : Nat}
    (h : .bytesDropped fd count ∈ s.replayFaults es) : ∃ stream : Stream, fd = stream.fd := by
  induction es generalizing s with
  | nil => cases h
  | cons e es ih =>
    rcases List.mem_append.mp h with h | h
    · cases e with
      | data fd' bytes =>
        simp only [faultsOf] at h
        split at h
        · cases List.mem_singleton.mp h
        · exact ⟨_, PushOutcome.fd_of_mem_faults h⟩
      | _ => cases h
    · exact ih h

end Sandbox

namespace Stage

/-- The notices that a move publishes. -/
def notices (w : Stage) (m : Move) : List DataNotice :=
  (w.applies m).1.replayNotices (w.applies m).2

/-- The faults of descriptors without a reader that a move publishes at once. -/
def strays (w : Stage) : Move → List EngineFault
  | .report e =>
    if w.hasSink && w.sandbox.present && w.sandbox.state = .spawning then e.stray?.toList else []
  | .seekRoom fd => if w.sandbox.present then (EngineEvent.data fd []).stray?.toList else []
  | _ => []

/-- The faults that a move publishes. -/
def faults (w : Stage) (m : Move) : List EngineFault :=
  w.strays m ++ (w.applies m).1.replayFaults (w.applies m).2

theorem applies_reader (w : Stage) (m : Move) (stream : Stream) :
    (w.applies m).1.reader stream = w.sandbox.reader stream := by
  cases m with
  | spawnReturns outcome =>
    cases outcome with
    | ok u => cases stream <;> rfl
    | error e => rfl
  | _ => rfl

section Report

variable {w : Stage} (sink : w.hasSink = true) (present : w.sandbox.present = true)

include sink present

theorem grows_postponed (spawning : w.sandbox.state = .spawning) (e : EngineEvent) :
    w.sandbox.hub.Grows (w.next (.report e)).sandbox.hub (w.notices (.report e))
      (w.faults (.report e)) := by
  have happlies : (w.applies (.report e)).2 = [] := by
    simp only [applies, spawning, ne_eq, not_true_eq_false, decide_false, Bool.and_false,
      Bool.false_eq_true, ↓reduceIte]
  have hstrays : w.strays (.report e) = [e].filterMap EngineEvent.stray? := by
    rw [strays, sink, present, decide_eq_true spawning, List.filterMap_cons]
    cases e.stray? <;> rfl
  rw [notices, faults, happlies, hstrays, next_report sink,
    Sandbox.deliver_of_spawning present spawning]
  refine ⟨fun hs => hs.congr rfl rfl rfl rfl rfl, (List.append_nil _).symm, ?_⟩
  exact congrArg (w.sandbox.hub.faults.sent ++ ·) (List.append_nil _).symm

theorem grows_applied (state : w.sandbox.state ≠ .spawning) (e : EngineEvent) :
    w.sandbox.hub.Grows (w.next (.report e)).sandbox.hub (w.notices (.report e))
      (w.faults (.report e)) := by
  have happlies : w.applies (.report e) = (w.sandbox, [e]) := by
    simp only [applies, sink, present, state, ne_eq, not_false_eq_true, decide_true,
      Bool.and_self, ↓reduceIte]
  have hstrays : w.strays (.report e) = [] := by
    rw [strays, decide_eq_false state, Bool.and_false]
    rfl
  rw [notices, faults, happlies, hstrays, next_report sink,
    Sandbox.deliver_of_not_spawning present state]
  exact w.sandbox.replay_grows [e]

end Report

theorem grows_report (w : Stage) (e : EngineEvent) :
    w.sandbox.hub.Grows (w.next (.report e)).sandbox.hub (w.notices (.report e))
      (w.faults (.report e)) := by
  cases sink : w.hasSink with
  | false =>
    simp only [notices, faults, strays, applies, next, act, sink, Bool.false_and, Bool.not_false,
      Bool.false_eq_true, ↓reduceIte]
    exact .refl _
  | true =>
    cases present : w.sandbox.present with
    | false =>
      simp only [notices, faults, strays, applies, next_report sink, Sandbox.deliver, present,
        Bool.and_false, Bool.false_and, Bool.not_false, Bool.false_eq_true, ↓reduceIte]
      exact .refl _
    | true =>
      by_cases hs : w.sandbox.state = .spawning
      · exact grows_postponed sink present hs e
      · exact grows_applied sink present hs e

theorem grows_seekRoom (w : Stage) (fd : Int) :
    w.sandbox.hub.Grows (w.next (.seekRoom fd)).sandbox.hub [] (w.strays (.seekRoom fd)) := by
  rw [next_seekRoom, strays]
  cases present : w.sandbox.present with
  | false =>
    simp only [Sandbox.poll, present, Bool.not_false, ↓reduceIte]
    exact .refl _
  | true =>
    simp only [Sandbox.poll, Sandbox.streamOf, present, Bool.not_true, Bool.false_eq_true,
      ↓reduceIte]
    cases hf : Stream.ofFd? fd with
    | none =>
      have hstray : (EngineEvent.data fd []).stray? = some (.unknownDescriptor fd) :=
        if_neg (Stream.ofFd?_eq_none.mp hf)
      rw [hstray]
      exact w.sandbox.hub.grows_report _
    | some stream =>
      have hstray : (EngineEvent.data fd []).stray? = none := by
        cases Stream.ofFd?_eq_some.mp hf
        cases stream <;> rfl
      rw [hstray]
      exact .refl _

theorem grows_spawnReturns (w : Stage) (outcome : Except EngineError Unit) :
    w.sandbox.hub.Grows (w.next (.spawnReturns outcome)).sandbox.hub
      (w.notices (.spawnReturns outcome)) (w.faults (.spawnReturns outcome)) := by
  cases call : w.inCall with
  | false =>
    have hnext : w.next (.spawnReturns outcome) = w := by
      simp only [next, act, call, Bool.not_false, ↓reduceIte]
      rfl
    rw [hnext]
    cases outcome with
    | ok u =>
      simp only [notices, faults, strays, applies, call, Bool.false_eq_true, ↓reduceIte]
      exact .refl _
    | error e => exact .refl _
  | true =>
    have hnext : (w.next (.spawnReturns outcome)).sandbox = (w.sandbox.finishSpawn outcome).1 := by
      simp only [next, act, call, Bool.not_true, Bool.false_eq_true, ↓reduceIte]
    rw [hnext]
    cases outcome with
    | ok u =>
      have hstart : w.sandbox.hub.Grows w.sandbox.started.hub [] [] := w.sandbox.hub.grows_emit _
      simp only [notices, faults, strays, applies, call, ↓reduceIte]
      exact hstart.trans (w.sandbox.started.replay_grows w.sandbox.pending)
    | error e => exact .refl _

/-- Every move adds to the records what it publishes, and nothing else. -/
theorem grows_next (w : Stage) (m : Move) :
    w.sandbox.hub.Grows (w.next m).sandbox.hub (w.notices m) (w.faults m) := by
  have settled {s : Sandbox} (hs : w.sandbox.hub.Grows s.hub [] []) :
      w.sandbox.hub.Grows (if w.sandbox.present then { w with sandbox := s } else w).sandbox.hub
        [] [] := by
    split
    · exact hs
    · exact .refl _
  cases m with
  | report e => exact w.grows_report e
  | spawnReturns outcome => exact w.grows_spawnReturns outcome
  | seekRoom fd =>
    have h := w.grows_seekRoom fd
    rw [← List.append_nil (w.strays (.seekRoom fd))] at h
    exact h
  | spawn options =>
    simp only [next, act, owner_fst]
    split
    · split
      · exact .refl _
      · next hb =>
        obtain ⟨-, rfl⟩ := Sandbox.beginSpawn_ok hb
        exact .refl _
    · exact .refl _
  | read stream max => cases stream <;> exact .refl _
  | awaitEnd => rw [next_awaitEnd]; exact .refl _
  | kill => rw [next_kill]; exact .refl _
  | write bytes accepted => rw [next_write]; exact .refl _
  | endStdin =>
    simp only [next, act]
    split
    · exact .refl _
    · next he =>
      rw [Sandbox.endStdin_sandbox he]
      exact .refl _
  | setDebug value =>
    rw [next, act, owner_fst]
    exact settled (.refl _)
  | setMapping mapping =>
    rw [next, act, owner_fst]
    exact settled (.refl _)
  | subscribe topic =>
    rw [next, act, owner_fst]
    exact settled (w.sandbox.hub.grows_subscribe topic)
  | unsubscribe topic => exact w.sandbox.hub.grows_leave topic
  | drop =>
    simp only [next, act]
    split <;> exact .refl _

theorem grows_run (c : Config) (ms : List Move) :
    (Hub.ofCapacity c.eventCapacity).Grows ((ofConfig c).run ms).sandbox.hub
      ((ofConfig c).gather notices ms) ((ofConfig c).gather faults ms) := by
  refine run_induction (P := fun ms w => (Hub.ofCapacity c.eventCapacity).Grows w.sandbox.hub
    ((ofConfig c).gather notices ms) ((ofConfig c).gather faults ms)) (ofConfig c) (.refl _)
    (fun ms m h => ?_) ms
  rw [gather_concat, gather_concat]
  exact h.trans (grows_next _ m)

theorem isStray_of_mem_strays {w : Stage} {m : Move} {fault : EngineFault}
    (h : fault ∈ w.strays m) : fault.isStray = true := by
  have stray {e : EngineEvent} (he : fault ∈ e.stray?.toList) : fault.isStray = true :=
    e.isStray_of_stray? (Option.mem_toList.mp he)
  cases m with
  | report e =>
    rw [strays] at h
    split at h
    · exact stray h
    · cases h
  | seekRoom fd =>
    rw [strays] at h
    split at h
    · exact stray h
    · cases h
  | _ => cases h

theorem tells_next {w : Stage} {offers : Stream → List Offer} (h : w.sandbox.hub.Tells offers)
    (hr : ∀ stream, (w.sandbox.reader stream).WellFormed) (m : Move) :
    (w.next m).sandbox.hub.Tells fun stream => offers stream ++ w.offers stream m := by
  have hgrows := w.grows_next m
  -- A start replays the queue, so the offers meet the readers that the move itself meets.
  have hr' (stream : Stream) : ((w.applies m).1.reader stream).WellFormed := by
    rw [applies_reader]
    exact hr stream
  refine ⟨fun stream => ?lens, fun stream => ?drops, fun n hn => ?notices,
    fun fd count hf => ?faults⟩
  case lens =>
    have hnew := (Sandbox.published_of_offers (hr' stream) (w.applies m).2).1
    rw [Hub.lens, hgrows.data, List.filterMap_append, List.map_append, List.filter_append,
      ← h.lens stream]
    exact congrArg (w.sandbox.hub.lens stream ++ ·) hnew
  case drops =>
    have hnew := (Sandbox.published_of_offers (hr' stream) (w.applies m).2).2
    have hstrays : (w.strays m).filterMap (EngineFault.droppedOf? stream.fd) = [] :=
      List.filterMap_eq_nil_iff.mpr fun fault hfault =>
        EngineFault.droppedOf?_of_isStray (isStray_of_mem_strays hfault) stream.fd
    rw [Hub.drops, hgrows.faults, faults, List.filterMap_append, List.filterMap_append, hstrays,
      List.map_append, List.filter_append, ← h.drops stream]
    exact congrArg (w.sandbox.hub.drops stream ++ ·) hnew
  case notices =>
    rw [hgrows.data] at hn
    rcases List.mem_append.mp hn with hn | hn
    · exact h.notices n hn
    · exact Sandbox.fd_of_mem_replayNotices hn
  case faults =>
    rw [hgrows.faults] at hf
    rcases List.mem_append.mp hf with hf | hf
    · exact h.faults fd count hf
    · rcases List.mem_append.mp hf with hf | hf
      · exact absurd (isStray_of_mem_strays hf) Bool.noConfusion
      · exact Sandbox.fd_of_mem_replayFaults hf

theorem wellFormed_run (c : Config) (ms : List Move) (stream : Stream) :
    (((ofConfig c).run ms).sandbox.reader stream).WellFormed :=
  (dealings_run c ms stream).turnover.wellFormed (Sandbox.reader_ofConfig c stream).2.2.2

theorem tells_run (c : Config) (ms : List Move) : ((ofConfig c).run ms).sandbox.hub.Tells
    fun stream => (ofConfig c).gather (offers stream) ms := by
  refine run_induction (P := fun ms w => w.sandbox.hub.Tells
    fun stream => (ofConfig c).gather (offers stream) ms) (ofConfig c) ?_ (fun ms m h => ?_) ms
  · exact ⟨fun _ => rfl, fun _ => rfl, fun _ hn => absurd hn List.not_mem_nil,
      fun _ _ hf => absurd hf List.not_mem_nil⟩
  · simp only [gather_concat]
    exact tells_next h (wellFormed_run c ms) m

section Closed

variable {w : Stage} (hw : w.Consistent) {stream : Stream}
  (closed : (w.sandbox.reader stream).closed = true)

include hw closed

theorem closed_next (m : Move) : ((w.next m).sandbox.reader stream).closed = true := by
  have hforward := (w.turn m).advances hw
  rw [hw.linked.closed] at closed
  rw [(hw.turn (w.turn m)).linked.closed]
  cases hs : w.sandbox.state with
  | terminated t =>
    rw [hs] at hforward
    rw [Lifecycle.terminated_of_advances hforward]
    rfl
  | _ =>
    rw [hs] at closed
    cases closed

/-- Nothing is offered to a closed reader. -/
theorem offers_of_closed (m : Move) : w.offers stream m = [] := by
  cases m with
  | report e =>
    have hnone : w.sandbox.offers stream [e] = [] := by
      rw [Sandbox.offers, Sandbox.offers, Sandbox.offer?_of_closed closed]
      rfl
    simp only [offers, applies]
    split
    · exact hnone
    · rfl
  | spawnReturns outcome =>
    cases outcome with
    | error e => rfl
    | ok u =>
      cases call : w.inCall with
      | false =>
        refine offers_of_applies_nil ?_ stream
        simp only [applies, call, Bool.false_eq_true, ↓reduceIte]
      | true =>
        rw [hw.linked.closed, hw.spawning_iff.mpr call] at closed
        cases closed
  | _ => rfl

theorem gather_offers_of_closed (ns : List Move) : w.gather (offers stream) ns = [] := by
  induction ns generalizing w with
  | nil => rfl
  | cons m ns ih =>
    rw [gather, offers_of_closed hw closed, List.nil_append]
    exact ih (hw.turn (w.turn m)) (closed_next hw closed m)

end Closed

/-- What is published about a stream balances the books of its reader. A notice tells of each part
of a chunk that was kept, a fault of each part that was dropped, and neither of nothing: the notices
add up to what was read and what is buffered, and the faults to what was dropped. About a closed
reader nothing more is published. -/
theorem books_balance (c : Config) (ms : List Move) (stream : Stream) :
    let w := (ofConfig c).run ms
    let r := w.sandbox.reader stream
    let hub := w.sandbox.hub
    let offers := (ofConfig c).gather (offers stream) ms
    (hub.lens stream).sum = ((ofConfig c).gather (taken stream) ms).length + r.length ∧
    (hub.drops stream).sum = r.dropped ∧
    (offers.map Offer.chunk = w.sandbox.state.due stream ((ofConfig c).gather heard ms) ∧
      hub.lens stream = (offers.map fun o => o.kept.length).filter (0 < ·) ∧
      hub.drops stream = (offers.map Offer.lost).filter (0 < ·)) ∧
    (∀ n ∈ hub.data.sent, 0 < n.len ∧ (n.fd = 1 ∨ n.fd = 2)) ∧
    (∀ fd count, .bytesDropped fd count ∈ hub.faults.sent → 0 < count ∧ (fd = 1 ∨ fd = 2)) ∧
    (r.closed = true → ∀ ns,
      (w.run ns).sandbox.hub.lens stream = hub.lens stream ∧
      (w.run ns).sandbox.hub.drops stream = hub.drops stream) := by
  intro w r hub offers
  have hbooks : ((Sandbox.ofConfig c).reader stream).Dealings r _ offers :=
    dealings_run c ms stream
  have htells : hub.Tells _ := tells_run c ms
  have hlens : hub.lens stream = (offers.map fun o => o.kept.length).filter (0 < ·) :=
    htells.lens stream
  have hdrops : hub.drops stream = (offers.map Offer.lost).filter (0 < ·) := htells.drops stream
  obtain ⟨hempty, hzero, -, -⟩ := Sandbox.reader_ofConfig c stream
  have hknown (stream : Stream) : stream.fd = 1 ∨ stream.fd = 2 := by
    cases stream with
    | stdout => exact .inl rfl
    | stderr => exact .inr rfl
  refine ⟨?kept, ?dropped, ⟨offered_run c ms stream, hlens, hdrops⟩, fun n hn => ?notice,
    fun fd count hf => ?fault, fun closed ns => ?late⟩
  case kept =>
    have hcontent := congrArg List.length hbooks.turnover.content
    rw [hempty, List.nil_append, List.length_append, ← (wellFormed_run c ms stream).length_eq,
      List.length_flatten, List.map_map] at hcontent
    rw [hlens, sum_filter_pos]
    exact hcontent.symm
  case dropped =>
    rw [hdrops, sum_filter_pos, hbooks.turnover.dropped, hzero, Nat.zero_add]
  case notice =>
    obtain ⟨source, hfd⟩ := htells.notices n hn
    rw [hfd]
    exact ⟨htells.len_pos hn, hknown source⟩
  case fault =>
    obtain ⟨source, rfl⟩ := htells.faults fd count hf
    exact ⟨htells.count_pos hf, hknown source⟩
  case late =>
    have hlate := tells_run c (ms ++ ns)
    have hoffers : (ofConfig c).gather (Stage.offers stream) (ms ++ ns) = offers := by
      rw [gather_append, gather_offers_of_closed (consistent_run c ms) closed, List.append_nil]
    rw [run_append] at hlate
    rw [hlate.lens, hlate.drops, hoffers, hlens, hdrops]
    exact ⟨rfl, rfl⟩

/-- A reader for three bytes: of the first chunk two are kept, of the next one, and then none. An
empty chunk and a chunk after the end leave no trace. -/
example :
    let w := (ofConfig { outputBuffer := .dropNewest 3 }).run
      [.spawn { program := "cat" }, .report (.data 1 [1, 2]), .spawnReturns (.ok ()),
        .report (.data 1 []), .report (.data 1 [3, 4]), .report (.data 1 [5]),
        .report (.exit 0), .report (.data 1 [6])]
    w.sandbox.hub.lens .stdout = [2, 1] ∧ w.sandbox.hub.drops .stdout = [1, 1] ∧
      w.sandbox.stdout.length = 3 ∧ w.sandbox.stdout.dropped = 2 := by
  decide +kernel

end Stage

end Confine
