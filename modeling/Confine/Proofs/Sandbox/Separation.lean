import Confine.Proofs.Sandbox.Publishing
import Confine.Proofs.Sandbox.Refusals

/-!
The two output streams do not influence each other. A course from which everything that one stream
carried is taken out is the same course to all who do not look at that stream.
-/

namespace Confine

namespace Stream

/-- The other output descriptor with a reader. -/
def other : Stream → Stream
  | stdout => stderr
  | stderr => stdout

theorem other_ne (stream : Stream) : stream.other ≠ stream := by
  cases stream <;> exact Stream.noConfusion

theorem fd_ne {stream hidden : Stream} (h : stream ≠ hidden) : stream.fd ≠ hidden.fd := by
  intro hfd
  apply h
  have hs := ofFd?_fd stream
  rw [hfd, ofFd?_fd] at hs
  exact (Option.some.inj hs).symm

end Stream

/-- Whether an event brings output of a stream. -/
def EngineEvent.carries (stream : Stream) : EngineEvent → Bool
  | .data fd _ => decide (fd = stream.fd)
  | _ => false

/-- Whether a move brings output of a stream or takes some out of its reader. -/
def Move.carries (stream : Stream) : Move → Bool
  | .report e => e.carries stream
  | .read source _ => decide (source = stream)
  | _ => false

/-- Whether a move is about a stream at all: it can also ask for room in the reader. -/
def Move.regards (stream : Stream) : Move → Bool
  | .seekRoom fd => decide (fd = stream.fd)
  | m => m.carries stream

/-- Whether a wait is for the reader of a stream. -/
def Task.regards (stream : Stream) : Task → Bool
  | .read source _ => decide (source = stream)
  | .readToEnd source _ _ => decide (source = stream)
  | .readerWritable source _ => decide (source = stream)
  | .sinkWritable fd => decide (fd = stream.fd)
  | .sinkAsleep source _ => decide (source = stream)
  | .termination => false

namespace Hub

/-- The hub without what was published about a stream. -/
def without (h : Hub) (hidden : Stream) : Hub :=
  { h with
    data := { h.data with sent := h.data.sent.filter fun n => n.fd ≠ hidden.fd }
    faults := { h.faults with
      sent := h.faults.sent.filter fun f => (f.droppedOf? hidden.fd).isNone } }

theorem without_emit (h : Hub) (hidden : Stream) (event : LifecycleEvent) :
    (h.without hidden).emit event = (h.emit event).without hidden := by
  cases event <;> rfl

theorem without_report (h : Hub) (hidden : Stream) (fd : Int) :
    (h.report (.unknownDescriptor fd)).without hidden =
      (h.without hidden).report (.unknownDescriptor fd) := by
  simp only [without, report, Ring.send, List.filter_append, List.filter_cons, List.filter_nil,
    EngineFault.droppedOf?, Option.isNone_none, ↓reduceIte]

theorem without_subscribe (h : Hub) (hidden : Stream) (topic : Topic) :
    ((h.without hidden).subscribe topic).1 = (h.subscribe topic).1.without hidden := by
  cases topic <;> rfl

theorem without_leave (h : Hub) (hidden : Stream) (topic : Topic) :
    (h.without hidden).leave topic = (h.leave topic).without hidden := by
  cases topic <;> rfl

section Publish

variable (h : Hub) (stream : Stream) (bytes : Bytes) (outcome : PushOutcome)

/-- Nothing is left of what is published about the hidden stream. -/
theorem publish_carried :
    (h.publish (outcome.notices stream bytes) (outcome.faults stream)).without stream =
      h.without stream := by
  have hnotices : (outcome.notices stream bytes).filter (fun n => n.fd ≠ stream.fd) = [] := by
    apply List.filter_eq_nil_iff.mpr
    intro n hn
    simp only [PushOutcome.fd_of_mem_notices hn, ne_eq, not_true, decide_false,
      Bool.false_eq_true, not_false_eq_true]
  have hfaults : (outcome.faults stream).filter
      (fun f => (f.droppedOf? stream.fd).isNone) = [] := by
    cases outcome with
    | truncated accepted dropped =>
      simp only [PushOutcome.faults, EngineFault.droppedOf?, List.filter_cons, List.filter_nil,
        Option.isNone_some, Bool.false_eq_true, ↓reduceIte]
    | _ => rfl
  simp only [publish, without, List.filter_append, hnotices, hfaults, List.append_nil]

theorem publish_without {hidden : Stream} (hs : stream ≠ hidden) :
    (h.publish (outcome.notices stream bytes) (outcome.faults stream)).without hidden =
      (h.without hidden).publish (outcome.notices stream bytes) (outcome.faults stream) := by
  have hfd := Stream.fd_ne hs
  have hnotices : (outcome.notices stream bytes).filter (fun n => n.fd ≠ hidden.fd) =
      outcome.notices stream bytes := by
    apply List.filter_eq_self.mpr
    intro n hn
    rw [PushOutcome.fd_of_mem_notices hn]
    exact decide_eq_true hfd
  have hfaults : (outcome.faults stream).filter (fun f => (f.droppedOf? hidden.fd).isNone) =
      outcome.faults stream := by
    cases outcome with
    | truncated accepted dropped =>
      simp only [PushOutcome.faults, EngineFault.droppedOf?, if_neg hfd, List.filter_cons,
        List.filter_nil, Option.isNone_none, ↓reduceIte]
    | _ => rfl
  simp only [publish, without, List.filter_append, hnotices, hfaults]

end Publish

end Hub

namespace Sandbox

/-- The sandbox without what a stream carried: with some other reader for it, and without the events
that wait for the end of the spawn and the publications that are about it. -/
def without (s : Sandbox) (hidden : Stream) (r : Reader) : Sandbox :=
  { s with
    stdout := (s.setReader hidden r).stdout
    stderr := (s.setReader hidden r).stderr
    pending := s.pending.filter fun e => !e.carries hidden
    hub := s.hub.without hidden }

section Without

variable (s : Sandbox) (hidden : Stream) (r : Reader) {stream : Stream}

theorem without_state : (s.without hidden r).state = s.state := by rw [without]

theorem without_present : (s.without hidden r).present = s.present := by rw [without]

theorem without_reader (h : stream ≠ hidden) :
    (s.without hidden r).reader stream = s.reader stream := by
  cases hidden <;> cases stream <;> first | rfl | exact absurd rfl h

theorem setReader_carried (r' : Reader) :
    (s.setReader hidden r').without hidden r = s.without hidden r := by
  cases hidden <;> rfl

theorem setReader_without (h : stream ≠ hidden) (r' : Reader) :
    (s.without hidden r).setReader stream r' = (s.setReader stream r').without hidden r := by
  cases hidden <;> cases stream <;> first | rfl | exact absurd rfl h

/-- Of output on the hidden stream nothing is left. -/
theorem route_carried (bytes : Bytes) :
    (s.route hidden bytes).1.without hidden r = s.without hidden r := by
  rw [route_eq]
  have hhub := s.hub.publish_carried hidden bytes ((s.reader hidden).push bytes).2
  cases hidden <;> simp only [without, setReader, hhub]

/-- Output on the other stream meets the same reader. -/
theorem route_without (h : stream ≠ hidden) (bytes : Bytes) :
    (s.without hidden r).route stream bytes =
      ((s.route stream bytes).1.without hidden r, (s.route stream bytes).2) := by
  have hreader := s.without_reader hidden r h
  apply Prod.ext
  · rw [route_eq, route_eq, hreader, s.setReader_without hidden r h]
    have hhub := s.hub.publish_without stream bytes ((s.reader stream).push bytes).2 h
    cases hidden <;> cases stream <;> simp only [without, setReader, hhub]
  · simp only [route, hreader]
    split <;> rfl

theorem release_without : ∃ r', (s.without hidden r).release = s.release.without hidden r' := by
  refine ⟨r.close.1, ?_⟩
  cases hidden <;> rfl

theorem emit_without (event : LifecycleEvent) :
    (s.without hidden r).emit event = (s.emit event).without hidden r := by
  simp only [emit, without, Hub.without_emit]
  cases hidden <;> rfl

theorem report_without (fd : Int) : (s.without hidden r).report (.unknownDescriptor fd) =
    (s.report (.unknownDescriptor fd)).without hidden r := by
  simp only [report, without, Hub.without_report]
  cases hidden <;> rfl

theorem ended_without (t : Termination) (event : LifecycleEvent) :
    ∃ r', (s.without hidden r).ended t event = (s.ended t event).without hidden r' := by
  let s' := { s with state := .terminated t }.announce
  have hemit := s'.emit_without hidden r event
  obtain ⟨r', hrelease⟩ := (s'.emit event).release_without hidden r
  refine ⟨r', Eq.trans ?_ hrelease⟩
  rw [← hemit]
  cases hidden <;> rfl

/-- An event on the hidden stream leaves nothing that shows. -/
theorem apply_carried {e : EngineEvent} (h : e.carries hidden = true) :
    (s.apply e).1.without hidden r = s.without hidden r := by
  cases e with
  | data fd bytes =>
    have hfd : fd = hidden.fd := of_decide_eq_true h
    subst hfd
    simp only [apply, streamOf, Stream.ofFd?_fd]
    exact s.route_carried hidden r bytes
  | _ => cases h

/-- Any other event comes to the same. -/
theorem apply_without {e : EngineEvent} (h : e.carries hidden = false) :
    ∃ r', (s.without hidden r).apply e = ((s.apply e).1.without hidden r', (s.apply e).2) := by
  have hend (t : Termination) (event : LifecycleEvent) (ht : t.event? = some event) :
      ∃ r', (s.without hidden r).terminate t = (s.terminate t).without hidden r' := by
    by_cases hs : s.state = .running
    · rw [terminate_of_running ht hs, terminate_of_running (s := s.without hidden r) ht hs]
      exact s.ended_without hidden r t event
    · rw [terminate_of_not_running hs, terminate_of_not_running (s := s.without hidden r) hs]
      exact ⟨r, rfl⟩
  cases e with
  | data fd bytes =>
    refine ⟨r, ?_⟩
    cases hf : Stream.ofFd? fd with
    | none =>
      simp only [apply, streamOf, hf, report_without]
    | some stream =>
      have hfd : fd = stream.fd := Stream.ofFd?_eq_some.mp hf
      have hne : stream ≠ hidden := by
        intro hs
        rw [hfd, hs] at h
        exact absurd rfl (of_decide_eq_false h)
      simp only [apply, streamOf, hf, s.route_without hidden r hne]
  | exit status =>
    obtain ⟨r', hr⟩ := hend (.exited status) (.exit status) rfl
    refine ⟨r', ?_⟩
    rw [apply, apply, hr]
  | signal number =>
    obtain ⟨r', hr⟩ := hend (.signaled number) (.signal number) rfl
    refine ⟨r', ?_⟩
    rw [apply, apply, hr]
  | newSocket path =>
    refine ⟨r, ?_⟩
    simp only [apply, without_state]
    split
    · rw [emit_without]
    · rfl

theorem replay_without (es : List EngineEvent) :
    ∃ r', (s.without hidden r).replay (es.filter fun e => !e.carries hidden) =
      (s.replay es).without hidden r' := by
  induction es generalizing s r with
  | nil => exact ⟨r, rfl⟩
  | cons e es ih =>
    cases he : e.carries hidden with
    | true =>
      have hskip : (e :: es).filter (fun e => !e.carries hidden) =
          es.filter fun e => !e.carries hidden :=
        List.filter_cons_of_neg (by simp only [he, Bool.not_true, Bool.false_eq_true,
          not_false_eq_true])
      obtain ⟨r', hr⟩ := ih (s.apply e).1 r
      refine ⟨r', ?_⟩
      rw [hskip, ← s.apply_carried hidden r he, hr, replay_cons]
    | false =>
      have hkeep : (e :: es).filter (fun e => !e.carries hidden) =
          e :: es.filter fun e => !e.carries hidden :=
        List.filter_cons_of_pos (by simp only [he, Bool.not_false])
      obtain ⟨r₁, happly⟩ := s.apply_without hidden r he
      obtain ⟨r', hr⟩ := ih (s.apply e).1 r₁
      refine ⟨r', ?_⟩
      rw [hkeep, replay_cons, happly, hr, replay_cons]

theorem postpone_carried {e : EngineEvent} (h : e.carries hidden = true) :
    (s.postpone e).1.without hidden r = s.without hidden r := by
  cases e with
  | data fd bytes =>
    have hfd : fd = hidden.fd := of_decide_eq_true h
    subst hfd
    simp only [postpone, Stream.ofFd?_fd, without, List.filter_append, List.filter_cons,
      EngineEvent.carries, decide_true, Bool.not_true, Bool.false_eq_true, ↓reduceIte,
      List.filter_nil, List.append_nil]
    cases hidden <;> rfl
  | _ => cases h

theorem postpone_without {e : EngineEvent} (h : e.carries hidden = false) :
    (s.without hidden r).postpone e =
      ((s.postpone e).1.without hidden r, (s.postpone e).2) := by
  have hkept : ({ s with pending := s.pending ++ [e] } : Sandbox).without hidden r =
      { s.without hidden r with pending := (s.without hidden r).pending ++ [e] } := by
    simp only [without, List.filter_append, List.filter_cons, h, Bool.not_false, ↓reduceIte,
      List.filter_nil]
    cases hidden <;> rfl
  cases hk : e.known with
  | true => rw [postpone_of_known _ hk, postpone_of_known _ hk, hkept]
  | false =>
    cases e with
    | data fd bytes =>
      have hfd : ¬(fd = 1 ∨ fd = 2) := of_decide_eq_false hk
      rw [postpone_of_unknown _ bytes hfd, postpone_of_unknown _ bytes hfd, report_without]
    | _ => exact absurd hk Bool.noConfusion

theorem deliver_carried {e : EngineEvent} (h : e.carries hidden = true) :
    (s.deliver e).1.without hidden r = s.without hidden r := by
  rw [deliver]
  split
  · rfl
  · split
    · exact s.postpone_carried hidden r h
    · exact s.apply_carried hidden r h

theorem deliver_without {e : EngineEvent} (h : e.carries hidden = false) :
    ∃ r', (s.without hidden r).deliver e =
      ((s.deliver e).1.without hidden r', (s.deliver e).2) := by
  rw [deliver, deliver, without_present, without_state]
  split
  · exact ⟨r, rfl⟩
  · split
    · exact ⟨r, s.postpone_without hidden r h⟩
    · exact s.apply_without hidden r h

theorem beginSpawn_without (options : SpawnOptions) :
    (s.without hidden r).beginSpawn options =
      (s.beginSpawn options).map fun (begun, request) => (begun.without hidden r, request) := by
  simp only [beginSpawn, without_state]
  cases s.state <;> cases hidden <;> rfl

theorem finishSpawn_without (outcome : Except EngineError Unit) :
    ∃ r', (s.without hidden r).finishSpawn outcome =
      ((s.finishSpawn outcome).1.without hidden r', (s.finishSpawn outcome).2) := by
  cases outcome with
  | ok =>
    obtain ⟨r', hr⟩ := s.started.replay_without hidden r s.pending
    have hstarted : (s.without hidden r).started = s.started.without hidden r := by
      cases hidden <;> rfl
    refine ⟨r', ?_⟩
    rw [finishSpawn, finishSpawn, spawnSucceeded, spawnSucceeded, hstarted]
    exact Prod.ext hr rfl
  | error e =>
    refine ⟨r.close.1, ?_⟩
    cases hidden <;> rfl

theorem readMax_carried (max : Option Nat) :
    (s.readMax hidden max).1.without hidden r = s.without hidden r := s.setReader_carried hidden r _

theorem readMax_without (h : stream ≠ hidden) (max : Option Nat) :
    (s.without hidden r).readMax stream max =
      ((s.readMax stream max).1.without hidden r, (s.readMax stream max).2) := by
  simp only [readMax, s.without_reader hidden r h, s.setReader_without hidden r h]

/-- A wait that is not for the hidden stream's reader finds the same. -/
theorem poll_without (task : Task) (h : task.regards hidden = false) :
    (s.without hidden r).poll task = ((s.poll task).1.without hidden r, (s.poll task).2) := by
  have hreader {source : Stream} (hs : decide (source = hidden) = false) :
      (s.without hidden r).reader source = s.reader source :=
    s.without_reader hidden r (of_decide_eq_false hs)
  cases task with
  | read source asleep =>
    have hne : source ≠ hidden := of_decide_eq_false h
    simp only [poll, hreader h, s.setReader_without hidden r hne]
  | readToEnd source taken asleep =>
    have hne : source ≠ hidden := of_decide_eq_false h
    simp only [poll, hreader h, s.setReader_without hidden r hne]
  | readerWritable source asleep => simp only [poll, hreader h]
  | sinkAsleep source asleep => simp only [poll, poll.sink, hreader h]
  | sinkWritable fd =>
    simp only [poll, without_present]
    split
    · rfl
    · cases hf : Stream.ofFd? fd with
      | none => simp only [streamOf, hf, report_without]
      | some source =>
        have hfd : fd = source.fd := Stream.ofFd?_eq_some.mp hf
        have hne : source ≠ hidden := by
          intro hs
          rw [hfd, hs] at h
          exact absurd rfl (of_decide_eq_false h)
        simp only [streamOf, hf, poll.sink, s.without_reader hidden r hne]
  | termination => rfl

/-- Whatever the descriptor, to ask for room shows only if it has no reader. -/
theorem sinkWritable_without (fd : Int) :
    ((s.without hidden r).poll (.sinkWritable fd)).1 =
      (s.poll (.sinkWritable fd)).1.without hidden r := by
  simp only [poll, without_present]
  split
  · rfl
  · cases hf : Stream.ofFd? fd with
    | none => simp only [streamOf, hf, report_without]
    | some source => simp only [streamOf, hf]

theorem endStdin_without :
    (s.without hidden r).endStdin =
      s.endStdin.map fun (ended, asked) => (ended.without hidden r, asked) := by
  have hended : (s.without hidden r).stdinEnded = s.stdinEnded := rfl
  have hrunning : (s.without hidden r).checkRunning "close stdin" =
      s.checkRunning "close stdin" := rfl
  simp only [endStdin, hended, without_present, hrunning]
  split
  · rfl
  · split
    · cases hidden <;> rfl
    · split
      · cases hidden <;> rfl
      · cases hidden <;> rfl
      · rfl

end Without

end Sandbox

namespace Stage

/-- The stage without what a stream carried. -/
def without (w : Stage) (hidden : Stream) (r : Reader) : Stage :=
  { w with sandbox := w.sandbox.without hidden r }

section Without

variable (w : Stage) (hidden : Stream) (r : Reader)

theorem without_sandbox : (w.without hidden r).sandbox = w.sandbox.without hidden r := by
  rw [without]

theorem without_hasSink : (w.without hidden r).hasSink = w.hasSink := by rw [without]

theorem without_inCall : (w.without hidden r).inCall = w.inCall := by rw [without]

/-- A move on the hidden stream leaves nothing that shows. -/
theorem next_carried {m : Move} (h : m.carries hidden = true) :
    (w.next m).without hidden r = w.without hidden r := by
  cases m with
  | report e =>
    cases sink : w.hasSink with
    | false => simp only [next, act, sink, keep, Bool.not_false, ↓reduceIte]
    | true => rw [next_report sink, without, w.sandbox.deliver_carried hidden r h, without]
  | read source max =>
    have hs : source = hidden := of_decide_eq_true h
    subst hs
    have hnext : w.next (.read source max) =
        { w with sandbox := (w.sandbox.readMax source max).1 } := rfl
    rw [hnext, without, w.sandbox.readMax_carried hidden r max, without]
  | _ => cases h

theorem owner_without {turn turn' : Stage × Answer × List EngineCall} (r' : Reader)
    (h : turn' = (turn.1.without hidden r', turn.2)) :
    ∃ r', (w.without hidden r).owner turn' =
      ((w.owner turn).1.without hidden r', (w.owner turn).2) := by
  rw [owner, owner, without_sandbox, Sandbox.without_present]
  split
  · exact ⟨r', h⟩
  · exact ⟨r, rfl⟩

/-- Any other move comes to the same, with the same answer and the same calls. -/
theorem act_without {m : Move} (h : m.regards hidden = false) :
    ∃ r', (w.without hidden r).act m = ((w.act m).1.without hidden r', (w.act m).2) := by
  cases m with
  | spawn options =>
    apply w.owner_without hidden r r
    have hbegin := w.sandbox.beginSpawn_without hidden r options
    rw [without_sandbox, hbegin]
    cases w.sandbox.beginSpawn options <;> rfl
  | spawnReturns outcome =>
    obtain ⟨r', hfinish⟩ := w.sandbox.finishSpawn_without hidden r outcome
    simp only [act, without_inCall, without_sandbox, hfinish]
    split
    · exact ⟨r, rfl⟩
    · exact ⟨r', rfl⟩
  | report e =>
    obtain ⟨r', hdeliver⟩ := w.sandbox.deliver_without hidden r h
    simp only [act, without_hasSink, without_sandbox, hdeliver]
    split
    · exact ⟨r, rfl⟩
    · exact ⟨r', rfl⟩
  | seekRoom fd =>
    refine ⟨r, ?_⟩
    have hpoll := w.sandbox.poll_without hidden r (.sinkWritable fd) h
    simp only [act, without_sandbox, hpoll]
    generalize w.sandbox.poll (.sinkWritable fd) = found
    obtain ⟨sandbox, value | task⟩ := found <;> rfl
  | read source max =>
    refine ⟨r, ?_⟩
    have hread := w.sandbox.readMax_without hidden r (of_decide_eq_false h) max
    simp only [act, without_sandbox, hread]
    rfl
  | awaitEnd =>
    apply w.owner_without hidden r r
    have hpoll := w.sandbox.poll_without hidden r .termination rfl
    rw [without_sandbox, hpoll]
    cases (w.sandbox.poll .termination).2 <;> rfl
  | kill =>
    apply w.owner_without hidden r r
    have hkill : (w.without hidden r).sandbox.killForwarded = w.sandbox.killForwarded := rfl
    rw [hkill]
    cases w.sandbox.killForwarded <;> rfl
  | write bytes accepted =>
    refine ⟨r, ?_⟩
    have hwrite : (w.without hidden r).sandbox.checkWrite = w.sandbox.checkWrite := rfl
    simp only [act, hwrite]
    split <;> rfl
  | endStdin =>
    refine ⟨r, ?_⟩
    have hend := w.sandbox.endStdin_without hidden r
    simp only [act, without_sandbox, hend]
    cases w.sandbox.endStdin <;> rfl
  | setDebug value => exact w.owner_without hidden r r (by cases hidden <;> rfl)
  | setMapping mapping => exact w.owner_without hidden r r (by cases hidden <;> rfl)
  | subscribe topic =>
    apply w.owner_without hidden r r
    have hhub := w.sandbox.hub.without_subscribe hidden topic
    simp only [without, Sandbox.without, hhub]
    cases hidden <;> rfl
  | unsubscribe topic =>
    refine ⟨r, ?_⟩
    have hhub := w.sandbox.hub.without_leave hidden topic
    simp only [act, without, Sandbox.without, hhub]
    cases hidden <;> rfl
  | drop =>
    refine ⟨r, ?_⟩
    simp only [act, without_inCall]
    split
    · rfl
    · cases hidden <;> rfl

theorem next_without {m : Move} (h : m.carries hidden = false) :
    ∃ r', (w.without hidden r).next m = (w.next m).without hidden r' := by
  cases hm : m.regards hidden with
  | false =>
    obtain ⟨r', hact⟩ := w.act_without hidden r hm
    exact ⟨r', congrArg Prod.fst hact⟩
  | true =>
    cases m with
    | seekRoom fd =>
      refine ⟨r, ?_⟩
      have hpoll := w.sandbox.sinkWritable_without hidden r fd
      rw [next_seekRoom, next_seekRoom, without_sandbox, hpoll]
      rfl
    | _ => exact absurd (h.symm.trans hm) Bool.noConfusion

theorem run_without (ms : List Move) :
    ∃ r', (w.without hidden r).run (ms.filter fun m => !m.carries hidden) =
      (w.run ms).without hidden r' := by
  induction ms generalizing w r with
  | nil => exact ⟨r, rfl⟩
  | cons m ms ih =>
    cases hm : m.carries hidden with
    | true =>
      obtain ⟨r', hrun⟩ := ih (w.next m) r
      rw [w.next_carried hidden r hm] at hrun
      refine ⟨r', ?_⟩
      rw [List.filter_cons_of_neg (by simp [hm]), hrun, run_cons]
    | false =>
      obtain ⟨r₁, hnext⟩ := w.next_without hidden r hm
      obtain ⟨r', hrun⟩ := ih (w.next m) r₁
      refine ⟨r', ?_⟩
      rw [List.filter_cons_of_pos (by simp [hm]), run_cons, hnext, hrun, run_cons]

end Without

/-- What a move is told and what it asks of the engine, unless it is about a hidden stream. -/
def results (hidden : Stream) (w : Stage) (m : Move) : List (Answer × List EngineCall) :=
  if m.regards hidden then [] else [(w.answer m, w.calls m)]

theorem regards_of_carries {hidden : Stream} {m : Move} (h : m.carries hidden = true) :
    m.regards hidden = true := by
  cases m with
  | seekRoom fd => cases h
  | _ => exact h

theorem results_without (w : Stage) (hidden : Stream) (r : Reader) (m : Move) :
    (w.without hidden r).results hidden m = w.results hidden m := by
  rw [results, results]
  split
  · rfl
  · next hm =>
    obtain ⟨r', hact⟩ := w.act_without hidden r (Bool.eq_false_iff.mpr hm)
    rw [answer, calls, hact, answer, calls]

theorem gather_without (w : Stage) (hidden : Stream) (r : Reader) (ms : List Move) :
    (w.without hidden r).gather (results hidden) (ms.filter fun m => !m.carries hidden) =
      w.gather (results hidden) ms := by
  induction ms generalizing w r with
  | nil => rfl
  | cons m ms ih =>
    cases hm : m.carries hidden with
    | true =>
      have hnone : w.results hidden m = [] := if_pos (regards_of_carries hm)
      have hrest := ih (w.next m) r
      rw [w.next_carried hidden r hm] at hrest
      rw [List.filter_cons_of_neg (by simp [hm]), hrest, gather, hnone, List.nil_append]
    | false =>
      obtain ⟨r', hnext⟩ := w.next_without hidden r hm
      have hrest := ih (w.next m) r'
      rw [List.filter_cons_of_pos (by simp [hm]), gather, hnext, hrest, w.results_without hidden r,
        gather]

theorem without_ofConfig (c : Config) (hidden : Stream) :
    (ofConfig c).without hidden ((Sandbox.ofConfig c).reader hidden) = ofConfig c := by
  cases hidden <;> rfl

/-- Neither output stream influences the other: without the output and the reads of one stream, a
course gives everybody else the same answers and the engine the same calls, and leaves the same
behind, apart from what was published about that stream. -/
theorem streams_apart (c : Config) (hidden : Stream) (ms : List Move) :
    let rest := ms.filter fun m => !m.carries hidden
    let w := (ofConfig c).run ms
    let w' := (ofConfig c).run rest
    let s := w.sandbox
    let s' := w'.sandbox
    (ofConfig c).gather (results hidden) rest = (ofConfig c).gather (results hidden) ms ∧
    (∀ m, m.regards hidden = false → w'.answer m = w.answer m ∧ w'.calls m = w.calls m) ∧
    (∀ task, task.regards hidden = false → (s'.poll task).2 = (s.poll task).2) ∧
    s'.reader hidden.other = s.reader hidden.other ∧
    (s'.state = s.state ∧ s'.announced = s.announced ∧ s'.present = s.present ∧
      s'.engineHeld = s.engineHeld ∧ s'.stdinClosed = s.stdinClosed) ∧
    (s'.hub.lifecycle = s.hub.lifecycle ∧ s'.hub.started = s.hub.started ∧
      s'.hub.exit = s.hub.exit ∧ s'.hub.signal = s.hub.signal ∧
      s'.hub.newSocket = s.hub.newSocket) ∧
    s'.hub.data.sent = s.hub.data.sent.filter (fun n => n.fd ≠ hidden.fd) ∧
    s'.hub.faults.sent = s.hub.faults.sent.filter fun f => (f.droppedOf? hidden.fd).isNone := by
  intro rest w w' s s'
  let fresh := (Sandbox.ofConfig c).reader hidden
  have hstart : (ofConfig c).without hidden fresh = ofConfig c := without_ofConfig c hidden
  have hgather := (ofConfig c).gather_without hidden fresh ms
  rw [hstart] at hgather
  obtain ⟨r, hrun⟩ := (ofConfig c).run_without hidden fresh ms
  rw [hstart] at hrun
  have hw' : w' = w.without hidden r := hrun
  have hs' : s' = s.without hidden r := congrArg sandbox hw'
  refine ⟨hgather, fun m hm => ?answers, fun task htask => ?polls, ?reader, ?state, ?announced,
    ?notices, ?faults⟩
  case answers =>
    obtain ⟨r', hact⟩ := w.act_without hidden r hm
    rw [hw', answer, calls, hact]
    exact ⟨rfl, rfl⟩
  case polls =>
    rw [hs', s.poll_without hidden r task htask]
  case reader =>
    rw [hs', s.without_reader hidden r hidden.other_ne]
  case state =>
    rw [hs']
    exact ⟨rfl, rfl, rfl, rfl, rfl⟩
  case announced =>
    rw [hs']
    exact ⟨rfl, rfl, rfl, rfl, rfl⟩
  case notices =>
    rw [hs']
    rfl
  case faults =>
    rw [hs']
    rfl

end Stage

end Confine
