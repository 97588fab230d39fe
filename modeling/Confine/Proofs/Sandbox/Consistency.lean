import Confine.Proofs.Sandbox.History

/-!
The links between the parts of a sandbox hold at every moment of every course, also while its engine
is being called to spawn.
-/

namespace Confine

namespace Sandbox

theorem linked_ofConfig (c : Config) : (ofConfig c).Linked :=
  ⟨rfl, fun stream => by cases stream <;> rfl, rfl⟩

theorem Linked.alike {s s' : Sandbox} (h : s.Linked) (ha : s.Alike s') : s'.Linked where
  announced := by rw [ha.announced, ha.state, h.announced]
  closed stream := by rw [ha.reader, ha.state, h.closed]
  engineHeld := by rw [ha.engineHeld, ha.present, ha.state, h.engineHeld]

theorem Linked.begun {s : Sandbox} (h : s.Linked) (hi : s.state = .idle) : s.begun.Linked where
  announced := rfl
  closed stream := by
    have hc := h.closed stream
    rw [hi] at hc
    cases stream <;> exact hc
  engineHeld := by
    have hh := h.engineHeld
    rw [hi] at hh
    exact hh

theorem Linked.started {s : Sandbox} (h : s.Linked) (hs : s.state = .spawning) :
    s.started.Linked where
  announced := rfl
  closed stream := by
    have hc := h.closed stream
    rw [hs] at hc
    cases stream <;> exact hc
  engineHeld := by
    have hh := h.engineHeld
    rw [hs] at hh
    exact hh

theorem linked_spawnFailed (s : Sandbox) : s.spawnFailed.Linked where
  announced := rfl
  closed stream := by cases stream <;> exact Reader.close_closed _
  engineHeld := (Bool.and_false _).symm

theorem readMax_reader (s : Sandbox) (stream : Stream) (max : Option Nat) :
    (s.readMax stream max).1.reader stream = ((s.reader stream).readMax max).1 := by
  cases stream <;> rfl

theorem readMax_reader_ne (s : Sandbox) {stream other : Stream} (max : Option Nat)
    (h : other ≠ stream) : (s.readMax stream max).1.reader other = s.reader other :=
  s.reader_setReader_ne _ h

theorem readMax_other (s : Sandbox) (stream : Stream) (max : Option Nat) :
    (s.readMax stream max).1.state = s.state ∧ (s.readMax stream max).1.present = s.present ∧
      (s.readMax stream max).1.pending = s.pending := by
  cases stream <;> exact ⟨rfl, rfl, rfl⟩

/-- A reader that is as closed as the one in its place can stand there. -/
theorem Linked.setReader {s : Sandbox} (h : s.Linked) {stream : Stream} {r : Reader}
    (hr : r.closed = (s.reader stream).closed) : (s.setReader stream r).Linked where
  announced := by cases stream <;> exact h.announced
  closed other := by
    have hstate : (s.setReader stream r).state = s.state := by cases stream <;> rfl
    rw [hstate, ← h.closed other]
    by_cases ho : other = stream
    · rw [ho, reader_setReader, hr]
    · rw [s.reader_setReader_ne r ho]
  engineHeld := by cases stream <;> exact h.engineHeld

theorem Linked.readMax {s : Sandbox} (h : s.Linked) (stream : Stream) (max : Option Nat) :
    (s.readMax stream max).1.Linked := h.setReader (Reader.readMax_closed _ max)

theorem Linked.drop {s : Sandbox} (h : s.Linked) : s.drop.Linked where
  announced := h.announced
  closed stream := by
    cases stream with
    | stdout => exact h.closed .stdout
    | stderr => exact h.closed .stderr
  engineHeld := (Bool.false_and _).symm

/-- A known event is taken in without an error. -/
theorem Applied.ok_of_known {s : Sandbox} {e : EngineEvent} {p : Sandbox × Except SandboxError Bool}
    (h : s.Applied e p) (hk : e.known = true) : ∃ answer, p.2 = .ok answer := by
  cases h with
  | unknown fd bytes hu => simp [EngineEvent.known, hu] at hk
  | _ => exact ⟨_, rfl⟩

end Sandbox

namespace Stage

/-- The links between the state, the queue, the announced state, the engine and the readers. -/
structure Consistent (w : Stage) : Prop where
  linked : w.sandbox.Linked
  spawning_iff : w.sandbox.state = .spawning ↔ w.inCall = true
  present_of_call : w.inCall = true → w.sandbox.present = true
  sink_iff : w.hasSink = true ↔ w.sandbox.state ≠ .idle
  pending_nil : w.sandbox.state ≠ .spawning → w.sandbox.pending = []
  pending_known : ∀ e ∈ w.sandbox.pending, e.known = true

theorem consistent_ofConfig (c : Config) : (ofConfig c).Consistent where
  linked := Sandbox.linked_ofConfig c
  spawning_iff := by simp [ofConfig, Sandbox.ofConfig]
  present_of_call _ := rfl
  sink_iff := by simp [ofConfig, Sandbox.ofConfig]
  pending_nil _ := rfl
  pending_known e he := by simp [ofConfig, Sandbox.ofConfig] at he

/-- A change that keeps the state and the queue, with the links restored. -/
theorem Consistent.changed {w : Stage} {s : Sandbox} (h : w.Consistent) (linked : s.Linked)
    (state : s.state = w.sandbox.state) (present : w.inCall = true → s.present = true)
    (pending : s.pending = w.sandbox.pending) : ({ w with sandbox := s } : Stage).Consistent where
  linked := linked
  spawning_iff := by
    rw [state]
    exact h.spawning_iff
  present_of_call := present
  sink_iff := by
    rw [state]
    exact h.sink_iff
  pending_nil := by
    rw [state, pending]
    exact h.pending_nil
  pending_known := by
    rw [pending]
    exact h.pending_known

/-- The end of the engine's spawn call. -/
theorem Consistent.returned {w : Stage} {s : Sandbox} (h : w.Consistent) (call : w.inCall = true)
    (linked : s.Linked) (idle : s.state ≠ .idle) (spawning : s.state ≠ .spawning)
    (pending : s.pending = []) :
    ({ w with sandbox := s, inCall := false } : Stage).Consistent where
  linked := linked
  spawning_iff := ⟨fun hs => absurd hs spawning, fun hc => Bool.noConfusion hc⟩
  present_of_call hc := Bool.noConfusion hc
  sink_iff := by
    have hsink : w.hasSink = true := by
      rw [h.sink_iff, h.spawning_iff.mpr call]
      exact Lifecycle.noConfusion
    exact ⟨fun _ => idle, fun _ => hsink⟩
  pending_nil _ := pending
  pending_known e he := by
    rw [pending] at he
    exact absurd he List.not_mem_nil

theorem Consistent.turn {w w' : Stage} {m : Move} (h : w.Consistent) (ht : w.Turn m w') :
    w'.Consistent := by
  cases ht with
  | quiet m s alike =>
    exact h.changed (h.linked.alike alike) alike.state
      (fun hc => alike.present.trans (h.present_of_call hc)) alike.pending
  | begun options present idle =>
    exact {
      linked := h.linked.begun idle
      spawning_iff := ⟨fun _ => rfl, fun _ => rfl⟩
      present_of_call := fun _ => present
      sink_iff := ⟨fun _ => Lifecycle.noConfusion, fun _ => rfl⟩
      pending_nil := fun hs => absurd rfl hs
      pending_known := h.pending_known }
  | postponed e sink present spawning known =>
    exact {
      linked := ⟨h.linked.announced, h.linked.closed, h.linked.engineHeld⟩
      spawning_iff := h.spawning_iff
      present_of_call := h.present_of_call
      sink_iff := h.sink_iff
      pending_nil := fun hs => absurd spawning hs
      pending_known := fun e' he' => by
        rcases List.mem_append.mp he' with he' | he'
        · exact h.pending_known e' he'
        · rw [List.mem_singleton.mp he']
          exact known }
  | refused fd bytes =>
    exact h.changed (h.linked.alike (w.sandbox.alike_report _)) rfl h.present_of_call rfl
  | applied e sink present state =>
    have hstate := w.sandbox.replay_state [e]
    exact {
      linked := h.linked.replay [e]
      spawning_iff := by
        rw [hstate, Lifecycle.after_eq_spawning]
        exact h.spawning_iff
      present_of_call := by
        rw [Sandbox.replay_present]
        exact h.present_of_call
      sink_iff := by
        rw [hstate, ne_eq, Lifecycle.after_eq_idle]
        exact h.sink_iff
      pending_nil := fun _ => (w.sandbox.replay_pending [e]).trans (h.pending_nil state)
      pending_known := by
        rw [Sandbox.replay_pending]
        exact h.pending_known }
  | started call =>
    have hstate := w.sandbox.started.replay_state w.sandbox.pending
    refine h.returned call ((h.linked.started (h.spawning_iff.mpr call)).replay _) ?_ ?_
      (w.sandbox.started.replay_pending w.sandbox.pending)
    · rw [hstate, ne_eq, Lifecycle.after_eq_idle]
      exact Lifecycle.noConfusion
    · rw [hstate, ne_eq, Lifecycle.after_eq_spawning]
      exact Lifecycle.noConfusion
  | failed e call =>
    exact h.returned call w.sandbox.linked_spawnFailed Lifecycle.noConfusion
      Lifecycle.noConfusion rfl
  | took stream max =>
    obtain ⟨hstate, hpresent, hpending⟩ := w.sandbox.readMax_other stream max
    exact h.changed (h.linked.readMax stream max) hstate
      (fun hc => hpresent.trans (h.present_of_call hc)) hpending
  | dropped call =>
    exact h.changed h.linked.drop rfl (fun hc => Bool.noConfusion (call.symm.trans hc)) rfl

/-- The links hold at every moment. -/
theorem consistent_run (c : Config) (ms : List Move) : ((ofConfig c).run ms).Consistent :=
  run_induction (P := fun _ w => w.Consistent) (ofConfig c) (consistent_ofConfig c)
    (fun _ m h => h.turn (turn _ m)) ms

/-- A waiter for the end sees the end of the child, as soon as there is one. -/
theorem Consistent.endSeen?_eq {w : Stage} (h : w.Consistent) :
    w.sandbox.endSeen? = w.sandbox.state.termination? := by
  rw [Sandbox.endSeen?]
  rw [h.linked.announced]
  cases w.sandbox.state <;> rfl

theorem answer_awaitEnd {w : Stage} (h : w.sandbox.present = true) :
    w.answer .awaitEnd = match w.sandbox.endSeen? with
      | some t => .ready (.termination t)
      | none => .pending := by
  simp only [answer, act, owner, h, ↓reduceIte, Sandbox.poll]
  cases w.sandbox.endSeen? <;> rfl

/-- No event of the queue can fail when its turn in the replay comes. -/
theorem Consistent.replay_ok {w : Stage} (h : w.Consistent) {before after : List EngineEvent}
    {e : EngineEvent} (hp : w.sandbox.pending = before ++ e :: after) :
    ∃ answer, ((w.sandbox.started.replay before).apply e).2 = .ok answer := by
  have he : e ∈ w.sandbox.pending := by
    rw [hp]
    exact List.mem_append_right _ List.mem_cons_self
  exact (Sandbox.applied _ e).ok_of_known (h.pending_known e he)

/-- The parts of a sandbox agree at every moment of every course, also while its engine is being
called: the state with the call, the queue, the engine, the readers and what waiters see. -/
theorem parts_agree (c : Config) (ms : List Move) :
    let w := (ofConfig c).run ms
    let s := w.sandbox
    (s.state = .spawning ↔ w.inCall = true) ∧
    (s.state ≠ .spawning → s.pending = []) ∧
    (∀ fd bytes, .data fd bytes ∈ s.pending → fd = 1 ∨ fd = 2) ∧
    (∀ before e after, s.pending = before ++ e :: after →
      ∃ answer, ((s.started.replay before).apply e).2 = .ok answer) ∧
    (s.present = true → (s.engineHeld = true ↔ ¬∃ t, s.state = .terminated t)) ∧
    (s.present = false → s.engineHeld = false) ∧
    (∀ stream, (s.reader stream).closed = true ↔ ∃ t, s.state = .terminated t) ∧
    s.announced = s.state ∧
    (s.present = true →
      (∀ t, w.answer .awaitEnd = .ready (.termination t) ↔ s.state = .terminated t) ∧
      (w.answer .awaitEnd = .pending ↔ ¬∃ t, s.state = .terminated t)) ∧
    (s.announced.isTerminated = true → s.announced.termination? ≠ none) := by
  intro w s
  have h : w.Consistent := consistent_run c ms
  have hend : s.state.isTerminated = true ↔ ∃ t, s.state = .terminated t := by
    cases s.state <;> simp [Lifecycle.isTerminated]
  refine ⟨h.spawning_iff, h.pending_nil, fun fd bytes hmem => ?known,
    fun before e after hp => h.replay_ok hp, fun hp => ?held, fun hp => ?gone,
    fun stream => ?closed, h.linked.announced, fun hp => ⟨fun t => ?ready, ?waiting⟩, ?told⟩
  case known => exact of_decide_eq_true (h.pending_known _ hmem)
  case held =>
    rw [← hend, h.linked.engineHeld, hp, Bool.true_and, Bool.not_eq_true', Bool.not_eq_true]
  case gone =>
    rw [h.linked.engineHeld, hp, Bool.false_and]
  case closed =>
    rw [h.linked.closed stream]
    exact hend
  case ready =>
    rw [answer_awaitEnd hp, h.endSeen?_eq]
    cases hs : s.state <;> simp [Lifecycle.termination?]
  case waiting =>
    rw [answer_awaitEnd hp, h.endSeen?_eq]
    cases hs : s.state <;> simp [Lifecycle.termination?]
  case told =>
    cases s.announced <;> simp [Lifecycle.isTerminated, Lifecycle.termination?]

end Stage

end Confine
