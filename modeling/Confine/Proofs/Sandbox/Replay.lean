import Confine.Proofs.Reader.Accounting
import Confine.Proofs.Sandbox.Reports
import Confine.Sandbox.Basic

/-!
What the events of an engine do to a sandbox when they are applied one after the other. Up to the
first end they are announced and their chunks go to the readers; what follows an end changes nothing
but the reported faults.
-/

namespace Confine

open EngineEvent

/-- The notices that follow a push. -/
def PushOutcome.notices (stream : Stream) (bytes : Bytes) : PushOutcome → List DataNotice
  | .buffered _ => if bytes = [] then [] else [⟨stream.fd, bytes.length⟩]
  | .truncated accepted _ => if accepted = 0 then [] else [⟨stream.fd, accepted⟩]
  | .closed => []

/-- The faults that follow a push. -/
def PushOutcome.faults (stream : Stream) : PushOutcome → List EngineFault
  | .truncated _ dropped => [.bytesDropped stream.fd dropped]
  | _ => []

/-- Sends notices and faults. -/
def Hub.publish (h : Hub) (notices : List DataNotice) (faults : List EngineFault) : Hub :=
  { h with
    data := { h.data with sent := h.data.sent ++ notices }
    faults := { h.faults with sent := h.faults.sent ++ faults } }

namespace Hub

theorem publish_nil (h : Hub) : h.publish [] [] = h := by
  simp only [publish, List.append_nil]

theorem publish_notice (h : Hub) (notice : DataNotice) :
    h.publish [notice] [] = h.notify notice := by
  simp only [publish, List.append_nil, notify, Ring.send]

theorem publish_fault (h : Hub) (fault : EngineFault) : h.publish [] [fault] = h.report fault := by
  simp only [publish, List.append_nil, report, Ring.send]

theorem publish_both (h : Hub) (notice : DataNotice) (fault : EngineFault) :
    h.publish [notice] [fault] = (h.report fault).notify notice := rfl

end Hub

namespace Sandbox

@[simp] theorem reader_setReader (s : Sandbox) (stream : Stream) (r : Reader) :
    (s.setReader stream r).reader stream = r := by
  cases stream <;> rfl

theorem reader_setReader_ne (s : Sandbox) {stream other : Stream} (r : Reader)
    (h : other ≠ stream) : (s.setReader stream r).reader other = s.reader other := by
  cases stream <;> cases other <;> first | rfl | exact absurd rfl h

theorem setReader_reader (s : Sandbox) (stream : Stream) :
    s.setReader stream (s.reader stream) = s := by
  cases stream <;> rfl

theorem setReader_setReader (s : Sandbox) (stream : Stream) (r r' : Reader) :
    (s.setReader stream r).setReader stream r' = s.setReader stream r' := by
  cases stream <;> rfl

theorem streamOf_fd (s : Sandbox) (stream : Stream) : s.streamOf stream.fd = (s, .ok stream) := by
  rw [streamOf, Stream.ofFd?_fd]

/-- The sandbox after the first end of a running child. -/
def ended (s : Sandbox) (t : Termination) (event : LifecycleEvent) : Sandbox :=
  (({ s with state := .terminated t }.announce).emit event).release

/-- Everything that applying one event can come to. -/
inductive Applied (s : Sandbox) : EngineEvent → Sandbox × Except SandboxError Bool → Prop
  | unknown (fd : Int) (bytes : Bytes) (h : ¬(fd = 1 ∨ fd = 2)) :
      Applied s (.data fd bytes)
        (s.report (.unknownDescriptor fd), .error (.unknownDescriptor fd))
  | routed (stream : Stream) (bytes : Bytes) :
      Applied s (.data stream.fd bytes)
        ((s.route stream bytes).1, .ok (s.route stream bytes).2)
  | ended (e : EngineEvent) (t : Termination) (event : LifecycleEvent)
      (ht : e.ending? = some t) (he : t.event? = some event) (h : s.state = .running) :
      Applied s e (s.ended t event, .ok false)
  | late (e : EngineEvent) (t : Termination) (ht : e.ending? = some t) (h : s.state ≠ .running) :
      Applied s e (s, .ok false)
  | announced (path : String) (h : s.state = .running) :
      Applied s (.newSocket path) (s.emit (.newSocket path), .ok false)
  | ignored (path : String) (h : s.state ≠ .running) : Applied s (.newSocket path) (s, .ok false)

theorem terminate_of_running {s : Sandbox} {t : Termination} {event : LifecycleEvent}
    (he : t.event? = some event) (h : s.state = .running) : s.terminate t = s.ended t event := by
  simp only [terminate, h, Lifecycle.terminate?, he]
  rfl

theorem terminate_of_not_running {s : Sandbox} {t : Termination} (h : s.state ≠ .running) :
    s.terminate t = s := by
  rw [terminate]
  cases hs : s.state with
  | running => exact absurd hs h
  | idle => rfl
  | spawning => rfl
  | terminated => rfl

theorem applied (s : Sandbox) (e : EngineEvent) : s.Applied e (s.apply e) := by
  cases e with
  | data fd bytes =>
    cases hf : Stream.ofFd? fd with
    | none =>
      simp only [apply, streamOf, hf]
      exact .unknown fd bytes (Stream.ofFd?_eq_none.mp hf)
    | some stream =>
      cases Stream.ofFd?_eq_some.mp hf
      simp only [apply, streamOf, hf]
      exact .routed stream bytes
  | exit status =>
    by_cases h : s.state = .running
    · rw [apply, terminate_of_running rfl h]
      exact .ended _ _ _ rfl rfl h
    · rw [apply, terminate_of_not_running h]
      exact .late _ _ rfl h
  | signal number =>
    by_cases h : s.state = .running
    · rw [apply, terminate_of_running rfl h]
      exact .ended _ _ _ rfl rfl h
    · rw [apply, terminate_of_not_running h]
      exact .late _ _ rfl h
  | newSocket path =>
    by_cases h : s.state = .running
    · simp only [apply, h, Lifecycle.isRunning, ↓reduceIte]
      exact .announced path h
    · have hr : s.state.isRunning = false := by
        cases hs : s.state with
        | running => exact absurd hs h
        | _ => rfl
      simp only [apply, hr, Bool.false_eq_true, ↓reduceIte]
      exact .ignored path h

@[simp] theorem replay_nil (s : Sandbox) : s.replay [] = s := rfl

theorem replay_cons (s : Sandbox) (e : EngineEvent) (es : List EngineEvent) :
    s.replay (e :: es) = (s.apply e).1.replay es := rfl

/-- Routing changes one reader and publishes what became of the chunk, nothing else. -/
theorem route_eq (s : Sandbox) (stream : Stream) (bytes : Bytes) :
    (s.route stream bytes).1 = { s.setReader stream ((s.reader stream).push bytes).1 with
      hub := s.hub.publish (((s.reader stream).push bytes).2.notices stream bytes)
        (((s.reader stream).push bytes).2.faults stream) } := by
  rw [route]
  generalize (s.reader stream).push bytes = pushed
  obtain ⟨r, outcome⟩ := pushed
  cases outcome with
  | buffered ready =>
    by_cases hb : bytes = []
    · simp only [PushOutcome.notices, PushOutcome.faults, hb, ↓reduceIte, Hub.publish_nil]
      cases stream <;> rfl
    · simp only [PushOutcome.notices, PushOutcome.faults, hb, ↓reduceIte, Hub.publish_notice]
      cases stream <;> rfl
  | truncated accepted dropped =>
    by_cases ha : accepted = 0
    · simp only [PushOutcome.notices, PushOutcome.faults, ha, ↓reduceIte, Hub.publish_fault]
      cases stream <;> rfl
    · simp only [PushOutcome.notices, PushOutcome.faults, ha, ↓reduceIte, Hub.publish_both]
      cases stream <;> rfl
  | closed =>
    simp only [PushOutcome.notices, PushOutcome.faults, Hub.publish_nil]
    cases stream <;> rfl

section Route

variable (s : Sandbox) (stream : Stream) (bytes : Bytes)

@[simp] theorem route_state : (s.route stream bytes).1.state = s.state := by
  rw [route_eq]
  cases stream <;> rfl

@[simp] theorem route_announced : (s.route stream bytes).1.announced = s.announced := by
  rw [route_eq]
  cases stream <;> rfl

@[simp] theorem route_pending : (s.route stream bytes).1.pending = s.pending := by
  rw [route_eq]
  cases stream <;> rfl

@[simp] theorem route_engineHeld : (s.route stream bytes).1.engineHeld = s.engineHeld := by
  rw [route_eq]
  cases stream <;> rfl

@[simp] theorem route_present : (s.route stream bytes).1.present = s.present := by
  rw [route_eq]
  cases stream <;> rfl

@[simp] theorem route_lifecycle :
    (s.route stream bytes).1.hub.lifecycle = s.hub.lifecycle := by
  rw [route_eq]
  rfl

@[simp] theorem route_reader :
    (s.route stream bytes).1.reader stream = ((s.reader stream).push bytes).1 := by
  rw [route_eq]
  cases stream <;> rfl

theorem route_reader_ne {other : Stream} (h : other ≠ stream) :
    (s.route stream bytes).1.reader other = s.reader other := by
  rw [route_eq]
  cases stream <;> cases other <;> first | rfl | exact absurd rfl h

end Route

section Applied

variable {s : Sandbox} {e : EngineEvent} {p : Sandbox × Except SandboxError Bool}

theorem Applied.pending (h : s.Applied e p) : p.1.pending = s.pending := by
  cases h with
  | routed stream bytes => exact route_pending s stream bytes
  | _ => rfl

theorem Applied.present (h : s.Applied e p) : p.1.present = s.present := by
  cases h with
  | routed stream bytes => exact route_present s stream bytes
  | _ => rfl

theorem Applied.state (h : s.Applied e p) : p.1.state = s.state.after [e] := by
  cases h with
  | unknown => exact (Lifecycle.after_of_no_ending rfl _).symm
  | routed stream bytes =>
    exact (route_state s stream bytes).trans (Lifecycle.after_of_no_ending rfl _).symm
  | ended _ t event ht _ hr =>
    simp only [hr, Lifecycle.after, EngineEvent.firstEnding, List.findSome?_cons, ht]
    rfl
  | late _ _ _ hr => exact (Lifecycle.after_of_not_running hr _).symm
  | announced => exact (Lifecycle.after_of_no_ending rfl _).symm
  | ignored => exact (Lifecycle.after_of_no_ending rfl _).symm

/-- What is announced of an event is all that the ordered stream gets. -/
theorem Applied.lifecycle (h : s.Applied e p) :
    p.1.hub.lifecycle.sent = s.hub.lifecycle.sent ++ s.state.tells announcement? [e] := by
  cases h with
  | unknown => rw [Lifecycle.tells_of_none rfl, List.append_nil]; rfl
  | routed stream bytes => rw [Lifecycle.tells_of_none rfl, List.append_nil, route_lifecycle]
  | ended _ t event ht he hr =>
    rw [hr, Lifecycle.tells_one, announcement?_of_ending ht, he]
    rfl
  | late _ _ _ hr => rw [Lifecycle.tells_of_not_running hr, List.append_nil]
  | announced path hr =>
    rw [hr]
    rfl
  | ignored path hr => rw [Lifecycle.tells_of_not_running hr, List.append_nil]

/-- The state is announced, the readers are open until the end, and the engine is held as long as
the sandbox is there and has not ended. -/
structure Linked (s : Sandbox) : Prop where
  announced : s.announced = s.state
  closed : ∀ stream, (s.reader stream).closed = s.state.isTerminated
  engineHeld : s.engineHeld = (s.present && !s.state.isTerminated)

theorem Applied.linked (h : s.Applied e p) (hl : s.Linked) : p.1.Linked := by
  cases h with
  | unknown => exact ⟨hl.announced, hl.closed, hl.engineHeld⟩
  | routed stream bytes =>
    refine ⟨?_, fun other => ?_, ?_⟩
    · rw [route_announced, route_state, hl.announced]
    · rw [route_state, ← hl.closed other]
      by_cases ho : other = stream
      · rw [ho, route_reader, Reader.push_closed]
      · rw [route_reader_ne s stream bytes ho]
    · rw [route_engineHeld, route_present, route_state, hl.engineHeld]
  | ended _ t event =>
    refine ⟨rfl, fun stream => ?_, (Bool.and_false _).symm⟩
    cases stream <;> exact Reader.close_closed _
  | late => exact hl
  | announced => exact ⟨hl.announced, hl.closed, hl.engineHeld⟩
  | ignored => exact hl

end Applied

theorem replay_pending (s : Sandbox) (es : List EngineEvent) :
    (s.replay es).pending = s.pending := by
  induction es generalizing s with
  | nil => rfl
  | cons e es ih => rw [replay_cons, ih, (s.applied e).pending]

theorem replay_present (s : Sandbox) (es : List EngineEvent) :
    (s.replay es).present = s.present := by
  induction es generalizing s with
  | nil => rfl
  | cons e es ih => rw [replay_cons, ih, (s.applied e).present]

theorem replay_state (s : Sandbox) (es : List EngineEvent) :
    (s.replay es).state = s.state.after es := by
  induction es generalizing s with
  | nil => exact (Lifecycle.after_nil _).symm
  | cons e es ih => rw [replay_cons, ih, (s.applied e).state, ← Lifecycle.after_cons]

theorem replay_lifecycle (s : Sandbox) (es : List EngineEvent) :
    (s.replay es).hub.lifecycle.sent = s.hub.lifecycle.sent ++ s.state.tells announcement? es := by
  induction es generalizing s with
  | nil => rw [replay_nil, Lifecycle.tells_nil, List.append_nil]
  | cons e es ih =>
    rw [replay_cons, ih, (s.applied e).state, (s.applied e).lifecycle, List.append_assoc,
      ← Lifecycle.tells_cons]

theorem Linked.replay {s : Sandbox} (h : s.Linked) (es : List EngineEvent) :
    (s.replay es).Linked := by
  induction es generalizing s with
  | nil => exact h
  | cons e es ih => exact ih ((s.applied e).linked h)

end Sandbox

end Confine
