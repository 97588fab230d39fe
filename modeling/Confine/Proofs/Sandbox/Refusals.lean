import Confine.Proofs.Sandbox.Postponement
import Confine.Proofs.Sandbox.Stdin

/-!
Moves that fail. Which error a move gets is settled by the sandbox that it meets, and a refused move
leaves that sandbox as it was, except that a descriptor without a reader is reported.
-/

namespace Confine

/-- The error that an answer brings. -/
def Answer.error? : Answer → Option SandboxError
  | .result (.error e) => some e
  | .ready (.writable (.error e)) => some e
  | _ => none

namespace Move

/-- What errors call a move that is for a child that was started. -/
def operation? : Move → Option String
  | .kill => some "kill"
  | .write _ _ => some "write to stdin"
  | .endStdin => some "close stdin"
  | _ => none

/-- The descriptor whose reader a move needs. -/
def descriptor? : Move → Option Int
  | .report (.data fd _) => some fd
  | .seekRoom fd => some fd
  | _ => none

end Move

namespace Sandbox

section Descriptor

variable {s : Sandbox} {fd : Int} (present : s.present = true)

include present

theorem deliver_of_unknown (h : ¬(fd = 1 ∨ fd = 2)) (bytes : Bytes) :
    s.deliver (.data fd bytes) =
      (s.report (.unknownDescriptor fd), .error (.unknownDescriptor fd)) := by
  by_cases hs : s.state = .spawning
  · simp only [deliver, present, hs, Bool.not_true, Bool.false_eq_true, ↓reduceIte]
    exact s.postpone_of_unknown bytes h
  · rw [deliver_of_not_spawning present hs]
    simp only [apply, streamOf, Stream.ofFd?_eq_none.mpr h]

theorem sinkWritable_of_unknown (h : ¬(fd = 1 ∨ fd = 2)) : s.poll (.sinkWritable fd) =
    (s.report (.unknownDescriptor fd), .inl (.writable (.error (.unknownDescriptor fd)))) := by
  simp only [poll, present, streamOf, Stream.ofFd?_eq_none.mpr h, Bool.not_true,
    Bool.false_eq_true, ↓reduceIte]

end Descriptor

/-- A wait for room fails for its descriptor alone. -/
theorem sinkWritable_error {s : Sandbox} {fd : Int} {e : SandboxError}
    (h : (s.poll (.sinkWritable fd)).2 = .inl (.writable (.error e))) :
    s.present = true ∧ ¬(fd = 1 ∨ fd = 2) ∧ e = .unknownDescriptor fd := by
  cases hp : s.present with
  | false =>
    simp only [poll, hp, Bool.not_false, ↓reduceIte] at h
    cases h
  | true =>
    cases hf : Stream.ofFd? fd with
    | none =>
      have hfd := Stream.ofFd?_eq_none.mp hf
      rw [sinkWritable_of_unknown hp hfd] at h
      cases h
      exact ⟨rfl, hfd, rfl⟩
    | some stream =>
      simp only [poll, hp, streamOf, hf, poll.sink, Bool.not_true, Bool.false_eq_true,
        ↓reduceIte] at h
      split at h <;> cases h

end Sandbox

namespace Stage

/-- The error that a move gets. -/
def error? (w : Stage) (m : Move) : Option SandboxError := (w.answer m).error?

/-- Everything that can be refused, and why. -/
inductive Refusal (w : Stage) : Move → SandboxError → Prop
  | again (options : SpawnOptions) (present : w.sandbox.present = true)
      (state : w.sandbox.state ≠ .idle) :
      Refusal w (.spawn options) (.invalidState "spawn" w.sandbox.state)
  | early (m : Move) (operation : String) (hm : m.operation? = some operation)
      (unstarted : w.sandbox.Unstarted) :
      Refusal w m (.invalidState operation w.sandbox.state)
  | closed (bytes : Bytes) (accepted : Bool) (h : w.sandbox.stdinClosed = true) :
      Refusal w (.write bytes accepted) .closedChannel
  | unaccepted (bytes : Bytes) (ended : w.sandbox.stdinEnded = false)
      (present : w.sandbox.present = true) (running : w.sandbox.state = .running) :
      Refusal w (.write bytes false) .closedChannel
  | strayData (fd : Int) (bytes : Bytes) (sink : w.hasSink = true)
      (present : w.sandbox.present = true) (unknown : ¬(fd = 1 ∨ fd = 2)) :
      Refusal w (.report (.data fd bytes)) (.unknownDescriptor fd)
  | strayWait (fd : Int) (present : w.sandbox.present = true) (unknown : ¬(fd = 1 ∨ fd = 2)) :
      Refusal w (.seekRoom fd) (.unknownDescriptor fd)
  | failed (e : EngineError) (call : w.inCall = true) :
      Refusal w (.spawnReturns (.error e)) (.spawn e)

theorem owner_answer (w : Stage) (turn : Stage × Answer × List EngineCall) :
    (w.owner turn).2.1 = if w.sandbox.present then turn.2.1 else .dropped := by
  rw [owner]
  split <;> rfl

section Inversion

variable {w : Stage} {e : SandboxError}

theorem refusal_spawn {options : SpawnOptions} (h : w.error? (.spawn options) = some e) :
    w.Refusal (.spawn options) e := by
  rw [error?, answer, act, owner_answer] at h
  split at h
  · next present =>
    cases hs : w.sandbox.state with
    | idle =>
      simp only [Sandbox.beginSpawn, hs] at h
      cases h
    | _ =>
      simp only [Sandbox.beginSpawn, hs] at h
      cases h
      rw [← hs]
      refine .again options present ?_
      rw [hs]
      exact Lifecycle.noConfusion
  · cases h

theorem refusal_spawnReturns {outcome : Except EngineError Unit}
    (h : w.error? (.spawnReturns outcome) = some e) : w.Refusal (.spawnReturns outcome) e := by
  simp only [error?, answer, act] at h
  split at h
  · cases h
  · next hc =>
    have call : w.inCall = true := by simpa using hc
    cases outcome with
    | ok => cases h
    | error cause =>
      cases h
      exact .failed cause call

theorem refusal_report {event : EngineEvent} (h : w.error? (.report event) = some e) :
    w.Refusal (.report event) e := by
  cases sink : w.hasSink with
  | false =>
    simp only [error?, answer, act, sink, Bool.not_false, ↓reduceIte] at h
    cases h
  | true =>
    rw [error?, answer_report sink] at h
    cases hd : (w.sandbox.deliver event).2 with
    | ok ready =>
      rw [hd] at h
      cases h
    | error cause =>
      rw [hd] at h
      cases h
      cases present : w.sandbox.present with
      | false =>
        simp only [Sandbox.deliver, present, Bool.not_false, ↓reduceIte] at hd
        cases hd
      | true =>
        obtain ⟨fd, bytes, rfl, unknown, rfl⟩ := (Sandbox.deliver_error present event e).mp hd
        exact .strayData fd bytes sink present unknown

theorem refusal_seekRoom {fd : Int} (h : w.error? (.seekRoom fd) = some e) :
    w.Refusal (.seekRoom fd) e := by
  simp only [error?, answer, act] at h
  cases hp : w.sandbox.poll (.sinkWritable fd) with
  | mk s' found =>
    rw [hp] at h
    cases found with
    | inr task => cases h
    | inl value =>
      cases value with
      | writable result =>
        cases result with
        | ok => cases h
        | error cause =>
          cases h
          obtain ⟨present, unknown, rfl⟩ := Sandbox.sinkWritable_error (congrArg Prod.snd hp)
          exact .strayWait fd present unknown
      | _ => cases h

theorem refusal_kill (h : w.error? .kill = some e) : w.Refusal .kill e := by
  rw [error?, answer, act, owner_answer] at h
  split at h
  · next present =>
    simp only [Sandbox.killForwarded] at h
    cases hs : w.sandbox.state with
    | idle =>
      rw [hs] at h
      cases h
      exact hs ▸ .early .kill "kill" rfl ⟨present, .inl hs⟩
    | spawning =>
      rw [hs] at h
      cases h
      exact hs ▸ .early .kill "kill" rfl ⟨present, .inr hs⟩
    | running =>
      rw [hs] at h
      cases h
    | terminated t =>
      rw [hs] at h
      cases h
  · cases h

variable {past : List Unit} (hw : w.Consistent) (hpast : w.Closings past)

include hw hpast

theorem refusal_write {bytes : Bytes} {accepted : Bool}
    (h : w.error? (.write bytes accepted) = some e) : w.Refusal (.write bytes accepted) e := by
  rw [error?] at h
  rcases w.sandbox.input with hc | hu | ⟨ended, present, running⟩
  · rw [(write_of_closed hc bytes accepted).1] at h
    cases h
    exact .closed bytes accepted hc
  · rw [(write_of_unstarted hu (hpast.unstarted hu) bytes accepted).1] at h
    cases h
    exact .early _ _ rfl hu
  · rw [(write_of_running hw ended present running bytes accepted).1] at h
    cases accepted with
    | true => cases h
    | false =>
      cases h
      exact .unaccepted bytes ended present running

theorem refusal_endStdin (h : w.error? .endStdin = some e) : w.Refusal .endStdin e := by
  rw [error?] at h
  rcases w.sandbox.input with hc | hu | ⟨ended, present, running⟩
  · rw [(endStdin_of_closed hc).1] at h
    cases h
  · rw [(endStdin_of_unstarted hu (hpast.unstarted hu)).1] at h
    cases h
    exact .early _ _ rfl hu
  · rw [(endStdin_of_running hw ended present running).1] at h
    cases h

/-- An error comes from one of the refusals. -/
theorem refusal {m : Move} (h : w.error? m = some e) : w.Refusal m e := by
  cases m with
  | spawn options => exact refusal_spawn h
  | spawnReturns outcome => exact refusal_spawnReturns h
  | report event => exact refusal_report h
  | seekRoom fd => exact refusal_seekRoom h
  | kill => exact refusal_kill h
  | write bytes accepted => exact refusal_write hw hpast h
  | endStdin => exact refusal_endStdin hw hpast h
  | read stream max => cases h
  | unsubscribe topic => cases h
  | awaitEnd =>
    cases present : w.sandbox.present with
    | true =>
      rw [error?, answer_awaitEnd present] at h
      split at h <;> cases h
    | false =>
      rw [error?, answer, act, owner_answer, present] at h
      cases h
  | setDebug value =>
    rw [error?, answer, act, owner_answer] at h
    split at h <;> cases h
  | setMapping mapping =>
    rw [error?, answer, act, owner_answer] at h
    split at h <;> cases h
  | subscribe topic =>
    rw [error?, answer, act, owner_answer] at h
    split at h <;> cases h
  | drop =>
    simp only [error?, answer, act] at h
    split at h <;> cases h

end Inversion

section Effect

variable {w : Stage}

theorem spawn_again {options : SpawnOptions} (present : w.sandbox.present = true)
    (state : w.sandbox.state ≠ .idle) :
    w.act (.spawn options) =
      w.keep (.result (.error (.invalidState "spawn" w.sandbox.state))) := by
  rw [act, owner, if_pos present]
  cases hs : w.sandbox.state with
  | idle => exact absurd hs state
  | _ => simp only [Sandbox.beginSpawn, hs]

theorem kill_of_unstarted (h : w.sandbox.Unstarted) :
    w.act .kill = w.keep (.result (.error (.invalidState "kill" w.sandbox.state))) := by
  rw [act, owner, if_pos h.1]
  rcases h.2 with hs | hs <;> simp only [Sandbox.killForwarded, hs]

/-- A move that needs a started child fails before the start, and nothing comes of it. -/
theorem operation_of_unstarted {past : List Unit} (hpast : w.Closings past) {m : Move}
    {operation : String} (hm : m.operation? = some operation) (h : w.sandbox.Unstarted) :
    w.error? m = some (.invalidState operation w.sandbox.state) ∧ w.calls m = [] ∧
      w.next m = w := by
  have ended := hpast.unstarted h
  cases m with
  | kill =>
    cases hm
    rw [error?, answer, calls, next, kill_of_unstarted h]
    exact ⟨rfl, rfl, rfl⟩
  | write bytes accepted =>
    cases hm
    obtain ⟨hanswer, hcalls⟩ := write_of_unstarted h ended bytes accepted
    rw [error?, hanswer]
    exact ⟨rfl, hcalls, next_write w bytes accepted⟩
  | endStdin =>
    cases hm
    obtain ⟨hanswer, hcalls, hnext⟩ := endStdin_of_unstarted h ended
    rw [error?, hanswer]
    exact ⟨rfl, hcalls, hnext⟩
  | _ => cases hm

section Stray

variable {fd : Int} (present : w.sandbox.present = true) (unknown : ¬(fd = 1 ∨ fd = 2))

include present unknown

theorem report_of_unknown (sink : w.hasSink = true) (bytes : Bytes) :
    w.error? (.report (.data fd bytes)) = some (.unknownDescriptor fd) ∧
      w.next (.report (.data fd bytes)) =
        { w with sandbox := w.sandbox.report (.unknownDescriptor fd) } := by
  rw [error?, answer_report sink, next_report sink,
    Sandbox.deliver_of_unknown present unknown bytes]
  exact ⟨rfl, rfl⟩

theorem seekRoom_of_unknown :
    w.error? (.seekRoom fd) = some (.unknownDescriptor fd) ∧
      w.next (.seekRoom fd) = { w with sandbox := w.sandbox.report (.unknownDescriptor fd) } := by
  have hpoll := Sandbox.sinkWritable_of_unknown present unknown
  constructor
  · simp only [error?, answer, act, hpoll]
    rfl
  · simp only [next, act, hpoll]

end Stray

end Effect

/-- Whatever fails leaves everything as it was. A move that comes in the wrong state learns that
state, a closed channel takes nothing in, and a descriptor without a reader is published as a fault,
which is all that anybody sees of it. -/
theorem refused_unchanged (c : Config) (ms : List Move) (m : Move) :
    let w := (ofConfig c).run ms
    let s := w.sandbox
    (∀ operation state, w.error? m = some (.invalidState operation state) ↔
      s.present = true ∧ state = s.state ∧
        ((∃ options, m = .spawn options) ∧ operation = "spawn" ∧ s.state ≠ .idle ∨
          m.operation? = some operation ∧ (s.state = .idle ∨ s.state = .spawning))) ∧
    (∀ operation state, w.error? m = some (.invalidState operation state) →
      w.next m = w ∧ w.calls m = []) ∧
    (w.error? m = some .closedChannel → w.next m = w ∧
      (w.calls m = [] ∨ ∃ bytes, m = .write bytes false ∧ w.calls m = [.writeStdin bytes])) ∧
    (∀ fd, w.error? m = some (.unknownDescriptor fd) ↔
      m.descriptor? = some fd ∧ ¬(fd = 1 ∨ fd = 2) ∧ s.present = true ∧
        (w.hasSink = true ∨ m = .seekRoom fd)) ∧
    (∀ fd, w.error? m = some (.unknownDescriptor fd) →
      w.calls m = [] ∧
      w.next m = { w with sandbox := { s with hub := { s.hub with
        faults := s.hub.faults.send (.unknownDescriptor fd) } } }) := by
  intro w s
  have hw : w.Consistent := consistent_run c ms
  have hends : w.Closings ((ofConfig c).gather closings ms) := closings_run c ms
  refine ⟨fun operation state => ⟨fun h => ?why, ?when⟩, fun operation state h => ?invalid,
    fun h => ?closed, fun fd => ⟨fun h => ?whose, ?stray⟩, fun fd h => ?published⟩
  case why =>
    cases refusal hw hends h with
    | again options present hs => exact ⟨present, rfl, .inl ⟨⟨options, rfl⟩, rfl, hs⟩⟩
    | early _ _ hm hu => exact ⟨hu.1, rfl, .inr ⟨hm, hu.2⟩⟩
  case when =>
    rintro ⟨present, rfl, ⟨⟨options, rfl⟩, rfl, hs⟩ | ⟨hm, hs⟩⟩
    · rw [error?, answer, spawn_again present hs]
      rfl
    · exact (operation_of_unstarted hends hm ⟨present, hs⟩).1
  case invalid =>
    cases refusal hw hends h with
    | again options present hs =>
      rw [next, calls, spawn_again present hs]
      exact ⟨rfl, rfl⟩
    | early _ _ hm hu =>
      obtain ⟨-, hcalls, hnext⟩ := operation_of_unstarted hends hm hu
      exact ⟨hnext, hcalls⟩
  case closed =>
    cases refusal hw hends h with
    | closed bytes accepted hc =>
      exact ⟨next_write w bytes accepted, .inl (write_of_closed hc bytes accepted).2⟩
    | unaccepted bytes ended present running =>
      refine ⟨next_write w bytes false, .inr ⟨bytes, rfl, ?_⟩⟩
      exact (write_of_running hw ended present running bytes false).2
  case whose =>
    cases refusal hw hends h with
    | strayData _ bytes sink present unknown => exact ⟨rfl, unknown, present, .inl sink⟩
    | strayWait _ present unknown => exact ⟨rfl, unknown, present, .inr rfl⟩
  case stray =>
    rintro ⟨hm, unknown, present, hreach⟩
    cases m with
    | seekRoom fd' =>
      cases hm
      exact (seekRoom_of_unknown present unknown).1
    | report event =>
      cases event with
      | data fd' bytes =>
        cases hm
        rcases hreach with sink | hm
        · exact (report_of_unknown present unknown sink bytes).1
        · cases hm
      | _ => cases hm
    | _ => cases hm
  case published =>
    cases refusal hw hends h with
    | strayData _ bytes sink present unknown =>
      exact ⟨w.calls_report _, (report_of_unknown present unknown sink bytes).2⟩
    | strayWait _ present unknown =>
      exact ⟨w.calls_seekRoom fd, (seekRoom_of_unknown present unknown).2⟩

/-- While the engine is being called, nobody can kill the child or spawn another, and output on a
descriptor without a reader is refused at once. -/
example :
    let w := (ofConfig {}).run [.spawn { program := "cat" }]
    w.error? .kill = some (.invalidState "kill" .spawning) ∧
      w.error? (.spawn { program := "cat" }) = some (.invalidState "spawn" .spawning) ∧
      w.error? (.report (.data 3 [1])) = some (.unknownDescriptor 3) ∧
      (w.next (.report (.data 3 [1]))).sandbox.pending = [] := by
  decide +kernel

end Stage

end Confine
