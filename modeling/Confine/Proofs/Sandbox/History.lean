import Confine.Proofs.Sandbox.Course
import Confine.Proofs.Sandbox.Replay

/-!
What a course leaves behind: the events that the sandbox heard of, the events that were applied to
it, and the bytes that reads got. Every move is one of a few turns.
-/

namespace Confine

namespace Sandbox

/-- Sandboxes that differ at most in their settings, their subscribers, the end of stdin and the
reported faults. -/
structure Alike (s s' : Sandbox) : Prop where
  state : s'.state = s.state
  announced : s'.announced = s.announced
  pending : s'.pending = s.pending
  engineHeld : s'.engineHeld = s.engineHeld
  present : s'.present = s.present
  reader : ∀ stream, s'.reader stream = s.reader stream
  lifecycle : s'.hub.lifecycle.sent = s.hub.lifecycle.sent

theorem Alike.refl (s : Sandbox) : s.Alike s := ⟨rfl, rfl, rfl, rfl, rfl, fun _ => rfl, rfl⟩

theorem alike_report (s : Sandbox) (fault : EngineFault) : s.Alike (s.report fault) :=
  ⟨rfl, rfl, rfl, rfl, rfl, fun stream => by cases stream <;> rfl, rfl⟩

theorem alike_streamOf (s : Sandbox) (fd : Int) : s.Alike (s.streamOf fd).1 := by
  rw [streamOf]
  split
  · exact .refl s
  · exact s.alike_report _

theorem alike_settings (s : Sandbox) (value : Bool) (mapping : PathMapping) :
    s.Alike { s with debugOnCrash := value, mapping } :=
  ⟨rfl, rfl, rfl, rfl, rfl, fun stream => by cases stream <;> rfl, rfl⟩

theorem alike_sinkWritable (s : Sandbox) (fd : Int) : s.Alike (s.poll (.sinkWritable fd)).1 := by
  have h := s.alike_streamOf fd
  simp only [poll]
  split
  · exact .refl s
  · generalize s.streamOf fd = p at h
    obtain ⟨s', e | stream⟩ := p <;> exact h

/-- Closing stdin changes nothing else. -/
theorem endStdin_sandbox {s s' : Sandbox} {asked : Bool} (h : s.endStdin = .ok (s', asked)) :
    s' = { s with stdinEnded := true } := by
  rw [endStdin] at h
  split at h
  · next hended =>
    cases h
    rw [← hended]
  · split at h
    · cases h
      rfl
    · split at h <;> cases h <;> rfl

theorem alike_endStdin {s s' : Sandbox} {asked : Bool} (h : s.endStdin = .ok (s', asked)) :
    s.Alike s' := by
  rw [endStdin_sandbox h]
  exact ⟨rfl, rfl, rfl, rfl, rfl, fun stream => by cases stream <;> rfl, rfl⟩

theorem alike_subscribe (s : Sandbox) (topic : Topic) :
    s.Alike { s with hub := (s.hub.subscribe topic).1 } := by
  refine ⟨rfl, rfl, rfl, rfl, rfl, fun stream => by cases stream <;> rfl, ?_⟩
  cases topic <;> rfl

theorem alike_leave (s : Sandbox) (topic : Topic) :
    s.Alike { s with hub := s.hub.leave topic } := by
  refine ⟨rfl, rfl, rfl, rfl, rfl, fun stream => by cases stream <;> rfl, ?_⟩
  cases topic <;> rfl

theorem postpone_of_known (s : Sandbox) {e : EngineEvent} (h : e.known = true) :
    s.postpone e = ({ s with pending := s.pending ++ [e] }, .ok true) := by
  cases e with
  | data fd bytes =>
    simp only [postpone]
    split
    · rfl
    · next hf =>
      have := Stream.ofFd?_eq_none.mp hf
      simp [EngineEvent.known, this] at h
  | _ => rfl

theorem postpone_of_unknown (s : Sandbox) {fd : Int} (bytes : Bytes) (h : ¬(fd = 1 ∨ fd = 2)) :
    s.postpone (.data fd bytes) =
      (s.report (.unknownDescriptor fd), .error (.unknownDescriptor fd)) := by
  simp only [postpone, Stream.ofFd?_eq_none.mpr h]

/-- The engine is about to be asked to start the child. -/
def begun (s : Sandbox) : Sandbox := { s with state := .spawning }.announce

theorem beginSpawn_ok {s sandbox : Sandbox} {options : SpawnOptions} {request : SpawnRequest}
    (h : s.beginSpawn options = .ok (sandbox, request)) : s.state = .idle ∧ sandbox = s.begun := by
  rw [beginSpawn] at h
  split at h
  · next hs =>
    cases h
    exact ⟨hs, rfl⟩
  · cases h

end Sandbox

namespace Stage

/-- The events that a move lets the sandbox hear of: reports while it is there. -/
def heard (w : Stage) : Move → List EngineEvent
  | .report e => if w.hasSink && w.sandbox.present then [e] else []
  | _ => []

/-- The bytes that a move reads from a stream. -/
def taken (stream : Stream) (w : Stage) : Move → Bytes
  | .read source max => if source = stream then (w.sandbox.readMax stream max).2.bytes else []
  | _ => []

/-- The events that a move applies, one after the other, and the sandbox that the first of them
meets. -/
def applies (w : Stage) : Move → Sandbox × List EngineEvent
  | .report e =>
    (w.sandbox,
      if w.hasSink && w.sandbox.present && w.sandbox.state ≠ .spawning then [e] else [])
  | .spawnReturns (.ok ()) =>
    (w.sandbox.started, if w.inCall then w.sandbox.pending else [])
  | _ => (w.sandbox, [])

/-- Everything that a move can come to. -/
inductive Turn (w : Stage) : Move → Stage → Prop
  /-- Nobody but subscribers to faults sees the move. -/
  | quiet (m : Move) (s : Sandbox) (alike : w.sandbox.Alike s) (heard : w.heard m = [])
      (taken : ∀ stream, w.taken stream m = []) (applies : (w.applies m).2 = []) :
      Turn w m { w with sandbox := s }
  | begun (options : SpawnOptions) (present : w.sandbox.present = true)
      (idle : w.sandbox.state = .idle) :
      Turn w (.spawn options) { sandbox := w.sandbox.begun, hasSink := true, inCall := true }
  | postponed (e : EngineEvent) (sink : w.hasSink = true) (present : w.sandbox.present = true)
      (spawning : w.sandbox.state = .spawning) (known : e.known = true) :
      Turn w (.report e) { w with
        sandbox := { w.sandbox with pending := w.sandbox.pending ++ [e] } }
  | refused (fd : Int) (bytes : Bytes) (sink : w.hasSink = true)
      (present : w.sandbox.present = true) (spawning : w.sandbox.state = .spawning)
      (unknown : ¬(fd = 1 ∨ fd = 2)) :
      Turn w (.report (.data fd bytes)) { w with
        sandbox := w.sandbox.report (.unknownDescriptor fd) }
  | applied (e : EngineEvent) (sink : w.hasSink = true) (present : w.sandbox.present = true)
      (state : w.sandbox.state ≠ .spawning) :
      Turn w (.report e) { w with sandbox := w.sandbox.replay [e] }
  | started (call : w.inCall = true) :
      Turn w (.spawnReturns (.ok ())) { w with
        sandbox := w.sandbox.started.replay w.sandbox.pending, inCall := false }
  | failed (e : EngineError) (call : w.inCall = true) :
      Turn w (.spawnReturns (.error e)) { w with
        sandbox := w.sandbox.spawnFailed, inCall := false }
  | took (stream : Stream) (max : Option Nat) :
      Turn w (.read stream max) { w with sandbox := (w.sandbox.readMax stream max).1 }
  | dropped (call : w.inCall = false) : Turn w .drop { w with sandbox := w.sandbox.drop }

/-- A move that leaves the stage as it is. -/
theorem Turn.same {w : Stage} (m : Move) (heard : w.heard m = [])
    (taken : ∀ stream, w.taken stream m = []) (applies : (w.applies m).2 = []) : w.Turn m w :=
  .quiet m w.sandbox (.refl _) heard taken applies

theorem Turn.of_eq {w w' : Stage} {m : Move} (h : w' = w) (heard : w.heard m = [])
    (taken : ∀ stream, w.taken stream m = []) (applies : (w.applies m).2 = []) : w.Turn m w' := by
  rw [h]
  exact .same m heard taken applies

theorem next_spawn {w : Stage} (present : w.sandbox.present = true)
    (idle : w.sandbox.state = .idle) (options : SpawnOptions) :
    w.next (.spawn options) = { sandbox := w.sandbox.begun, hasSink := true, inCall := true } := by
  rw [next, act, owner_fst, if_pos present]
  simp only [Sandbox.beginSpawn, idle]
  rfl

theorem turn_spawn (w : Stage) (options : SpawnOptions) :
    w.Turn (.spawn options) (w.next (.spawn options)) := by
  simp only [next, act, owner_fst]
  split
  · next hp =>
    cases hs : w.sandbox.state with
    | idle =>
      simp only [Sandbox.beginSpawn, hs]
      exact .begun options hp hs
    | _ =>
      simp only [Sandbox.beginSpawn, hs]
      exact .same _ rfl (fun _ => rfl) rfl
  · exact .same _ rfl (fun _ => rfl) rfl

theorem turn_spawnReturns (w : Stage) (outcome : Except EngineError Unit) :
    w.Turn (.spawnReturns outcome) (w.next (.spawnReturns outcome)) := by
  simp only [next, act]
  split
  · next hc =>
    have hc : w.inCall = false := by simpa using hc
    refine .same _ rfl (fun _ => rfl) ?_
    cases outcome with
    | ok => simp only [applies, hc, Bool.false_eq_true, ↓reduceIte]
    | error => rfl
  · next hc =>
    have hc : w.inCall = true := by simpa using hc
    cases outcome with
    | ok => exact .started hc
    | error e => exact .failed e hc

theorem turn_report (w : Stage) (e : EngineEvent) :
    w.Turn (.report e) (w.next (.report e)) := by
  simp only [next, act, Sandbox.deliver]
  split
  · next hsink =>
    have hsink : w.hasSink = false := by simpa using hsink
    refine .same _ ?_ (fun _ => rfl) ?_
    · simp only [heard, hsink, Bool.false_and, Bool.false_eq_true, ↓reduceIte]
    · simp only [applies, hsink, Bool.false_and, Bool.false_eq_true, ↓reduceIte]
  · next hsink =>
    have hsink : w.hasSink = true := by simpa using hsink
    split
    · next hp =>
      have hp : w.sandbox.present = false := by simpa using hp
      refine .same _ ?_ (fun _ => rfl) ?_
      · simp only [heard, hp, Bool.and_false, Bool.false_eq_true, ↓reduceIte]
      · simp only [applies, hp, Bool.and_false, Bool.false_and, Bool.false_eq_true, ↓reduceIte]
    · next hp =>
      have hp : w.sandbox.present = true := by simpa using hp
      split
      · next hs =>
        cases e with
        | data fd bytes =>
          by_cases hk : fd = 1 ∨ fd = 2
          · rw [w.sandbox.postpone_of_known (by simpa [EngineEvent.known] using hk)]
            exact .postponed _ hsink hp hs (by simpa [EngineEvent.known] using hk)
          · rw [w.sandbox.postpone_of_unknown bytes hk]
            exact .refused fd bytes hsink hp hs hk
        | exit status => exact .postponed (.exit status) hsink hp hs rfl
        | signal number => exact .postponed (.signal number) hsink hp hs rfl
        | newSocket path => exact .postponed (.newSocket path) hsink hp hs rfl
      · next hs => exact .applied e hsink hp hs

theorem turn_seekRoom (w : Stage) (fd : Int) : w.Turn (.seekRoom fd) (w.next (.seekRoom fd)) := by
  rw [next_seekRoom]
  exact .quiet _ _ (w.sandbox.alike_sinkWritable fd) rfl (fun _ => rfl) rfl

theorem next_endStdin {w : Stage} {sandbox : Sandbox} {asked : Bool}
    (h : w.sandbox.endStdin = .ok (sandbox, asked)) : w.next .endStdin = { w with sandbox } := by
  simp only [next, act, h]

theorem next_setDebug {w : Stage} (present : w.sandbox.present = true) (value : Bool) :
    w.next (.setDebug value) = { w with sandbox := { w.sandbox with debugOnCrash := value } } := by
  rw [next, act, owner_fst, if_pos present]

theorem next_setMapping {w : Stage} (present : w.sandbox.present = true) (mapping : PathMapping) :
    w.next (.setMapping mapping) = { w with sandbox := { w.sandbox with mapping } } := by
  rw [next, act, owner_fst, if_pos present]

theorem next_subscribe {w : Stage} (present : w.sandbox.present = true) (topic : Topic) :
    w.next (.subscribe topic) = { w with
      sandbox := { w.sandbox with hub := (w.sandbox.hub.subscribe topic).1 } } := by
  rw [next, act, owner_fst, if_pos present]

theorem next_report {w : Stage} (sink : w.hasSink = true) (e : EngineEvent) :
    w.next (.report e) = { w with sandbox := (w.sandbox.deliver e).1 } := by
  simp only [next, act, sink, Bool.not_true, Bool.false_eq_true, ↓reduceIte]

theorem turn_endStdin (w : Stage) : w.Turn .endStdin (w.next .endStdin) := by
  simp only [next, act]
  split
  · exact .same _ rfl (fun _ => rfl) rfl
  · next s asked h => exact .quiet _ s (Sandbox.alike_endStdin h) rfl (fun _ => rfl) rfl

theorem next_awaitEnd (w : Stage) : w.next .awaitEnd = w := by
  simp only [next, act, owner_fst]
  split
  · split <;> rfl
  · rfl

theorem next_kill (w : Stage) : w.next .kill = w := by
  simp only [next, act, owner_fst]
  split
  · split <;> rfl
  · rfl

theorem next_write (w : Stage) (bytes : Bytes) (accepted : Bool) :
    w.next (.write bytes accepted) = w := by
  simp only [next, act]
  split <;> rfl

/-- Every move is a turn. -/
theorem turn (w : Stage) (m : Move) : w.Turn m (w.next m) := by
  have settled (s : Sandbox) (h : w.sandbox.Alike s) (m : Move) (heard : w.heard m = [])
      (taken : ∀ stream, w.taken stream m = []) (applies : (w.applies m).2 = []) :
      w.Turn m (if w.sandbox.present then { w with sandbox := s } else w) := by
    split
    · exact .quiet m s h heard taken applies
    · exact .same m heard taken applies
  cases m with
  | spawn options => exact w.turn_spawn options
  | spawnReturns outcome => exact w.turn_spawnReturns outcome
  | report e => exact w.turn_report e
  | seekRoom fd => exact w.turn_seekRoom fd
  | read stream max => exact .took stream max
  | awaitEnd => exact .of_eq w.next_awaitEnd rfl (fun _ => rfl) rfl
  | kill => exact .of_eq w.next_kill rfl (fun _ => rfl) rfl
  | write bytes accepted => exact .of_eq (w.next_write bytes accepted) rfl (fun _ => rfl) rfl
  | endStdin => exact w.turn_endStdin
  | setDebug value =>
    rw [next, act, owner_fst]
    exact settled _ (w.sandbox.alike_settings value _) _ rfl (fun _ => rfl) rfl
  | setMapping mapping =>
    rw [next, act, owner_fst]
    exact settled _ (w.sandbox.alike_settings _ mapping) _ rfl (fun _ => rfl) rfl
  | subscribe topic =>
    rw [next, act, owner_fst]
    exact settled _ (w.sandbox.alike_subscribe topic) _ rfl (fun _ => rfl) rfl
  | unsubscribe topic =>
    exact .quiet _ _ (w.sandbox.alike_leave topic) rfl (fun _ => rfl) rfl
  | drop =>
    simp only [next, act]
    split
    · exact .same _ rfl (fun _ => rfl) rfl
    · next hc => exact .dropped (by simpa using hc)

end Stage

end Confine
