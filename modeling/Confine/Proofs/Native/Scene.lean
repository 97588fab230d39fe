import Confine.Native.Supervision
import Confine.Proofs.Pump.Copying
import Confine.Proofs.Sandbox.Calls

/-!
The tasks around a child at work together: two pumps and the watch, with whoever writes to the pipes
and the embedder. Each goes on in steps, and between any two steps of one the others may take any of
theirs. A scene keeps the record of what came into the pipes and of what the sink was told.
-/

namespace Confine

open EngineEvent Relation

namespace Supervision

/-- The event that the watch is about to report, once both pumps have come to their end. -/
def ending? (v : Supervision) : Option EngineEvent :=
  match v.ended with
  | some raw =>
    if v.reaped && v.drained && !v.reported then some (WaitStatus.event raw) else none
  | none => none

section Tasks

variable (v : Supervision) (stream : Stream) (p : Pump)

theorem pump_setPump : (v.setPump stream p).pump stream = p := by
  cases stream <;> rfl

theorem pump_setPump_ne {other : Stream} (h : other ≠ stream) :
    (v.setPump stream p).pump other = v.pump other := by
  cases stream <;> cases other <;> first | rfl | exact absurd rfl h

theorem setPump_other : (v.setPump stream p).ended = v.ended ∧
    (v.setPump stream p).reaped = v.reaped ∧ (v.setPump stream p).reported = v.reported := by
  cases stream <;> exact ⟨rfl, rfl, rfl⟩

theorem drained_iff : v.drained = true ↔ ∀ stream, (v.pump stream).phase = .finished := by
  rw [drained, Bool.and_eq_true, decide_eq_true_eq, decide_eq_true_eq]
  refine ⟨fun h stream => ?_, fun h => ⟨h .stdout, h .stderr⟩⟩
  cases stream
  · exact h.1
  · exact h.2

/-- A pump that does not start again cannot undo the draining. -/
theorem drained_setPump (h : (v.pump stream).phase = .finished → p.phase = .finished)
    (hd : v.drained = true) : (v.setPump stream p).drained = true := by
  rw [drained_iff] at hd ⊢
  intro other
  by_cases ho : other = stream
  · rw [ho, pump_setPump]
    exact h (hd stream)
  · rw [pump_setPump_ne v stream p ho]
    exact hd other

end Tasks

theorem ending?_eq_some {v : Supervision} {e : EngineEvent} (h : v.ending? = some e) :
    (∃ raw, v.ended = some raw ∧ e = WaitStatus.event raw) ∧ v.drained = true ∧
      v.reported = false := by
  rw [ending?] at h
  split at h
  · next raw hraw =>
    split at h
    · next hready =>
      cases h
      rw [Bool.and_eq_true, Bool.and_eq_true] at hready
      exact ⟨⟨raw, hraw, rfl⟩, hready.1.2, by simpa using hready.2⟩
    · cases h
  · cases h

/-- The watch hands the end to the sandbox once it has come to that, and does nothing else. -/
theorem report_eq (v : Supervision) (s : Sandbox) : v.report s =
    match v.ending? with
    | some e => ({ v with reported := true }, (s.deliver e).1)
    | none => (v, s) := by
  cases hraw : v.ended with
  | none => simp only [report, ending?, hraw]
  | some raw =>
    simp only [report, ending?, hraw]
    split <;> rfl

/-- Once both pumps have come to their end nothing holds the report back. -/
theorem report_reported {v : Supervision} (hend : v.ended.isSome = true) (hr : v.reaped = true)
    (hd : v.drained = true) (s : Sandbox) : (v.report s).1.reported = true := by
  obtain ⟨raw, hraw⟩ := Option.isSome_iff_exists.mp hend
  cases hreported : v.reported with
  | false => simp only [report, hraw, hr, hd, hreported, Bool.not_false, Bool.and_self, ↓reduceIte]
  | true =>
    simp only [report, hraw, hreported, Bool.not_true, Bool.and_false, Bool.false_eq_true,
      ↓reduceIte]

end Supervision

/-- Every wait status is an end. -/
theorem WaitStatus.ending?_event (raw : Option Int) : ∃ t, (event raw).ending? = some t := by
  cases raw with
  | none => exact ⟨_, rfl⟩
  | some raw =>
    rw [event]
    split
    · exact ⟨_, rfl⟩
    · split <;> exact ⟨_, rfl⟩

/-- Whether a move can be made once the tasks are there: only they report, and the engine's spawn
call does not fail any more. -/
def Move.isForeign : Move → Bool
  | .report _ | .spawnReturns (.error _) => false
  | _ => true

/-- A child with its tasks and the sandbox that spawned it, and the record of what was done. -/
structure Scene where
  tasks : Supervision := {}
  stage : Stage
  /-- What came into the pipes. -/
  sent : Stream → List PipeItem := fun _ => []
  /-- The events that the tasks handed to the sink. -/
  told : List EngineEvent := []
  /-- The moves that brought the sandbox here. -/
  past : List Move

namespace Scene

/-- The child and its tasks are started, but the engine's spawn call has not returned. -/
def begun (c : Config) (before : List Move) (options : SpawnOptions) : Scene :=
  { stage := (Stage.ofConfig c).run (before ++ [.spawn options])
    past := before ++ [.spawn options] }

/-- Something comes into a pipe. -/
def feed (w : Scene) (stream : Stream) (item : PipeItem) : Scene :=
  { w with
    tasks := w.tasks.feed stream item
    sent := fun other => if other = stream then w.sent other ++ [item] else w.sent other }

/-- The child ends, unless it already has. -/
def childEnds (w : Scene) (raw : Option Int) : Scene := { w with tasks := w.tasks.childEnds raw }

/-- A task has handed some events to the sink. -/
def goOn (w : Scene) (tasks : Supervision) (sandbox : Sandbox) (es : List EngineEvent) : Scene :=
  { w with
    tasks
    stage := { w.stage with sandbox }
    told := w.told ++ es
    past := w.past ++ es.map .report }

/-- A pump has handed some chunks to the sink. -/
def pumped (w : Scene) (stream : Stream) (q : Pump × Sandbox) (chunks : List Bytes) : Scene :=
  w.goOn (w.tasks.setPump stream q.1) q.2 (chunks.map (.data (w.tasks.pump stream).fd))

/-- The watch reports the end, if it can. -/
def report (w : Scene) : Scene :=
  let (tasks, sandbox) := w.tasks.report w.stage.sandbox
  w.goOn tasks sandbox w.tasks.ending?.toList

/-- Somebody else does something with the sandbox. -/
def does (w : Scene) (m : Move) : Scene :=
  { w with stage := w.stage.next m, past := w.past ++ [m] }

/-- The wait status of a killed child. -/
def killed : Option Int := some (WaitStatus.ofSignal 9)

/-- The steps of everybody. Between any two steps of one there may be any steps of the others. -/
inductive Step (limits : Limits) (w : Scene) : Scene → Prop
  /-- The child or a straggler of its group writes to a pipe. -/
  | write (stream : Stream) (bytes : Bytes) (h : bytes ≠ []) (ho : .endOfStream ∉ w.sent stream) :
      Step limits w (w.feed stream (.data bytes))
  /-- The next read of a pipe is to be tried again. -/
  | interrupt (stream : Stream) (ho : .endOfStream ∉ w.sent stream) :
      Step limits w (w.feed stream .interrupted)
  /-- The last writer of a pipe is gone. -/
  | hangUp (stream : Stream) (ho : .endOfStream ∉ w.sent stream) :
      Step limits w (w.feed stream .endOfStream)
  /-- The child ends by itself, or with the engine that goes with the sandbox. -/
  | ends (raw : Option Int) : Step limits w (w.childEnds raw)
  /-- The wall time is over before the child ends. -/
  | expire (h : limits.wallTimeMs.isSome = true) (hr : w.tasks.reaped = false) :
      Step limits w (w.childEnds killed)
  /-- A request of the embedder to kill reaches the engine. -/
  | kill (h : w.stage.calls .kill = [.kill]) : Step limits w ((w.does .kill).childEnds killed)
  /-- The watch sees that the child has ended. -/
  | reap : Step limits w { w with tasks := w.tasks.reap }
  /-- A pump tries its wait for room. -/
  | wait (stream : Stream) :
      Step limits w
        (w.pumped stream ((w.tasks.pump stream).gate w.tasks.reaped w.stage.sandbox) [])
  /-- A pump leaves its wait for the reaping, whether there is room or not. -/
  | giveUp (stream : Stream) (hr : w.tasks.reaped = true)
      (hp : (w.tasks.pump stream).phase = .fresh ∨
        ∃ source n, (w.tasks.pump stream).phase = .asleep source n) :
      Step limits w (w.pumped stream
        ({ w.tasks.pump stream with phase := .reading, draining := true }, w.stage.sandbox) [])
  /-- A pump reads from its pipe and hands the chunk over; nobody can see it in between. -/
  | turn (stream : Stream) (q : Pump × Sandbox)
      (h : (w.tasks.pump stream).turn? w.tasks.reaped w.stage.sandbox = some q) :
      Step limits w (w.pumped stream q (w.tasks.pump stream).chunk?.toList)
  /-- The watch joins both pumps and reports the end, if it can. -/
  | report : Step limits w w.report
  /-- The embedder reads, writes, kills, drops the sandbox or does anything else with it. -/
  | foreign (m : Move) (h : m.isForeign = true) : Step limits w (w.does m)

end Scene

/-- What can come into a pipe: items that end nothing, and the end of the stream after them. -/
inductive Piped : List PipeItem → Prop
  | open (items : List PipeItem) (h : ∀ item ∈ items, item.ends = false) : Piped items
  | hungUp (items : List PipeItem) (h : ∀ item ∈ items, item.ends = false) :
      Piped (items ++ [.endOfStream])

/-- What the tasks can have told: output, and behind it an end once that is reported. -/
inductive Told : Bool → List EngineEvent → Prop
  | output (es : List EngineEvent) (h : ∀ e ∈ es, e.ending? = none) : Told false es
  | whole (es : List EngineEvent) (h : ∀ e ∈ es, e.ending? = none) (e : EngineEvent)
      (t : Termination) (ht : e.ending? = some t) : Told true (es ++ [e])

namespace Piped

theorem add {sent : List PipeItem} (h : Piped sent) (ho : .endOfStream ∉ sent) {item : PipeItem}
    (hi : item.ends = false) : Piped (sent ++ [item]) := by
  cases h with
  | «open» items h =>
    exact .open _ (List.forall_mem_append.mpr ⟨h, List.forall_mem_singleton.mpr hi⟩)
  | hungUp items => exact absurd (List.mem_append_right _ List.mem_cons_self) ho

theorem hangUp {sent : List PipeItem} (h : Piped sent) (ho : .endOfStream ∉ sent) :
    Piped (sent ++ [.endOfStream]) := by
  cases h with
  | «open» items h => exact .hungUp _ h
  | hungUp items => exact absurd (List.mem_append_right _ List.mem_cons_self) ho

theorem pastEnd?_open {items : List PipeItem} (h : ∀ item ∈ items, item.ends = false) :
    Pump.pastEnd? items = none := by
  induction items with
  | nil => rfl
  | cons item items ih =>
    rw [Pump.pastEnd?_cons (h item List.mem_cons_self)]
    exact ih fun other hmem => h other (List.mem_cons_of_mem _ hmem)

theorem pastEnd?_hungUp {sent : List PipeItem} (h : Piped sent) (hm : .endOfStream ∈ sent) :
    Pump.pastEnd? sent = some [] := by
  cases h with
  | «open» items h => exact absurd (h _ hm) Bool.noConfusion
  | hungUp items h => exact (Pump.append_of_no_end (pastEnd?_open h) [.endOfStream]).2

/-- All bytes of such a pipe lie before its end. -/
theorem text {sent : List PipeItem} (h : Piped sent) :
    Pump.text sent = sent.flatMap PipeItem.bytes := by
  cases h with
  | «open» items h => rw [Pump.text, Pump.upToEnd_of_no_end (pastEnd?_open h)]
  | hungUp items h =>
    have hopen := pastEnd?_open h
    obtain ⟨hup, -⟩ := Pump.append_of_no_end hopen [.endOfStream]
    rw [Pump.text, hup, Pump.upToEnd_of_no_end hopen, List.flatMap_append, List.flatMap_append]
    rfl

end Piped

namespace Told

theorem endings {reported : Bool} {told : List EngineEvent} (h : Told reported told) :
    (told.filterMap ending?).length = if reported then 1 else 0 := by
  have silent {es : List EngineEvent} (h : ∀ e ∈ es, e.ending? = none) :
      es.filterMap ending? = [] := List.filterMap_eq_nil_iff.mpr h
  cases h with
  | output es h =>
    rw [silent h]
    rfl
  | whole es h e t ht =>
    rw [List.filterMap_append, silent h, List.filterMap_cons_some ht]
    rfl

theorem output_data {reported : Bool} {told : List EngineEvent} (h : Told reported told)
    {chunks : List Bytes} (hr : reported = true → chunks = []) (fd : Int) :
    Told reported (told ++ chunks.map (.data fd)) := by
  cases h with
  | output es h =>
    exact .output _ (List.forall_mem_append.mpr ⟨h, fun _ hmem => ending?_data chunks hmem⟩)
  | whole es h e t ht =>
    rw [hr rfl, List.map_nil, List.append_nil]
    exact .whole es h e t ht

theorem report {told : List EngineEvent} (h : Told false told) {e : EngineEvent} {t : Termination}
    (ht : e.ending? = some t) : Told true (told ++ [e]) := by
  cases h with
  | output es h => exact .whole told h e t ht

/-- If an end is among the first events told, these are all of them. -/
theorem of_heard {reported : Bool} {told heard : List EngineEvent} (h : Told reported told)
    (hp : heard <+: told) (he : firstEnding heard ≠ none) (stream : Stream) :
    reported = true ∧ chunks stream (beforeEnding heard) = chunks stream told := by
  have silent {es : List EngineEvent} (h : ∀ e ∈ es, e.ending? = none) (hp : heard <+: es) :
      firstEnding heard = none :=
    List.findSome?_eq_none_iff.mpr fun e hmem => h e (hp.subset hmem)
  cases h with
  | output es h => exact absurd (silent h hp) he
  | whole es h e t ht =>
    rcases List.prefix_concat_iff.mp hp with rfl | hp
    · have hbefore : beforeEnding (es ++ [e]) = es := by
        rw [beforeEnding, List.takeWhile_append_of_pos fun e' hmem => by rw [h e' hmem]; rfl,
          List.takeWhile_cons_of_neg (by rw [ht]; exact Bool.noConfusion), List.append_nil]
      rw [hbefore, chunks_concat_ending stream es ht]
      exact ⟨rfl, rfl⟩
    · exact absurd (silent h hp) he

end Told

/-- A stage is where its moves bring it, its spawn has not failed, and its sandbox heard whatever
was told while it was there. -/
structure Recorded (c : Config) (told : List EngineEvent) (stage : Stage) (past : List Move) :
    Prop where
  course : stage = (Stage.ofConfig c).run past
  sink : stage.hasSink = true
  unfailed : stage.sandbox.state ≠ .terminated .spawnFailed
  heard : (Stage.ofConfig c).gather Stage.heard past <+: told
  present : stage.sandbox.present = true → (Stage.ofConfig c).gather Stage.heard past = told

namespace Recorded

variable {c : Config} {told : List EngineEvent} {stage : Stage} {past : List Move}

/-- A move takes the record on with what it lets the sandbox hear of. -/
theorem next (h : Recorded c told stage past) {m : Move} {es : List EngineEvent}
    (hm : ∀ e, m ≠ .spawnReturns (.error e))
    (heard : stage.heard m = if stage.sandbox.present then es else []) :
    Recorded c (told ++ es) (stage.next m) (past ++ [m]) := by
  have hpast : (Stage.ofConfig c).gather Stage.heard (past ++ [m]) =
      (Stage.ofConfig c).gather Stage.heard past ++ if stage.sandbox.present then es else [] := by
    rw [Stage.gather_concat, ← h.course, heard]
  refine ⟨?course, Stage.hasSink_next h.sink m, (stage.turn m).unfailed hm h.unfailed, ?heard,
    fun hp => ?present⟩
  case course => rw [Stage.run_concat, ← h.course]
  case heard =>
    rw [hpast]
    split
    · next hp => exact ⟨[], by rw [List.append_nil, h.present hp]⟩
    · rw [List.append_nil]
      exact h.heard.trans (List.prefix_append told es)
  case present =>
    have hp := (stage.turn m).present hp
    rw [hpast, if_pos hp, h.present hp]

theorem foreign (h : Recorded c told stage past) {m : Move} (hm : m.isForeign = true) :
    Recorded c told (stage.next m) (past ++ [m]) := by
  have hfailed (e : EngineError) : m ≠ .spawnReturns (.error e) := by
    rintro rfl
    cases hm
  have hheard : stage.heard m = if stage.sandbox.present then [] else [] := by
    rw [ite_self]
    cases m with
    | report e => cases hm
    | _ => rfl
  have hnext := h.next hfailed hheard
  rw [List.append_nil] at hnext
  exact hnext

theorem reports (h : Recorded c told stage past) (es : List EngineEvent) :
    Recorded c (told ++ es) { stage with sandbox := stage.sandbox.hear es }
      (past ++ es.map .report) := by
  rw [← stage.run_hear h.sink es]
  induction es generalizing told stage past with
  | nil =>
    rw [List.map_nil, List.append_nil, List.append_nil]
    exact h
  | cons e es ih =>
    have hheard : stage.heard (.report e) = if stage.sandbox.present then [e] else [] := by
      simp only [Stage.heard, h.sink, Bool.true_and]
    have hrest := ih (h.next (fun _ => Move.noConfusion) hheard)
    rw [List.append_assoc, List.append_assoc] at hrest
    exact hrest

end Recorded

end Confine
