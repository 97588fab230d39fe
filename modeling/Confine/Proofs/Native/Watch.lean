import Confine.Proofs.Native.Scene

/-!
The watch and the pumps in step. What a pump has taken from its pipe is what the sink was told of
it, the end is told last, and so a closed reader has all the output.
-/

namespace Confine

open EngineEvent Relation

namespace Scene

/-- What holds between the pipes, the pumps, the watch and the sandbox at every moment. -/
structure Sound (c : Config) (w : Scene) : Prop where
  fd : ∀ stream, (w.tasks.pump stream).fd = stream.fd
  piped : ∀ stream, Piped (w.sent stream)
  copied : ∀ stream, Pump.Copied (w.sent stream) (chunks stream w.told) (w.tasks.pump stream)
  told : Told w.tasks.reported w.told
  drained : w.tasks.reported = true → w.tasks.drained = true
  recorded : Recorded c w.told w.stage w.past

variable {c : Config} {w : Scene}

theorem sound_begun {before : List Move} (options : SpawnOptions)
    (idle : ((Stage.ofConfig c).run before).sandbox.state = .idle)
    (present : ((Stage.ofConfig c).run before).sandbox.present = true) :
    (begun c before options).Sound c := by
  have hspawn := Stage.next_spawn present idle options
  have hheard : (Stage.ofConfig c).gather Stage.heard (before ++ [.spawn options]) = [] := by
    rw [Stage.gather_concat, ((Stage.phase_run c before).of_idle idle).1]
    rfl
  have hstage : (begun c before options).stage = {
      sandbox := ((Stage.ofConfig c).run before).sandbox.begun
      hasSink := true
      inCall := true } := (Stage.run_concat _ _ _).trans hspawn
  exact {
    fd := fun stream => by cases stream <;> rfl
    piped := fun _ => .open [] fun _ hmem => absurd hmem List.not_mem_nil
    copied := fun stream => by cases stream <;> exact Pump.copied_start _
    told := .output [] fun _ hmem => absurd hmem List.not_mem_nil
    drained := fun hr => Bool.noConfusion hr
    recorded := {
      course := rfl
      sink := by rw [hstage]
      unfailed := by rw [hstage]; exact Lifecycle.noConfusion
      heard := ⟨[], (List.append_nil _).trans hheard⟩
      present := fun _ => hheard } }

theorem Sound.feed (h : w.Sound c) {stream : Stream} {item : PipeItem}
    (hp : Piped (w.sent stream ++ [item])) : (w.feed stream item).Sound c where
  fd other := by
    by_cases ho : other = stream
    · rw [ho, Scene.feed, Supervision.feed, Supervision.pump_setPump]
      exact h.fd stream
    · rw [Scene.feed, Supervision.feed, Supervision.pump_setPump_ne _ _ _ ho]
      exact h.fd other
  piped other := by
    by_cases ho : other = stream
    · subst ho
      simp only [Scene.feed, ↓reduceIte]
      exact hp
    · simp only [Scene.feed, ho, ↓reduceIte]
      exact h.piped other
  copied other := by
    by_cases ho : other = stream
    · subst ho
      simp only [Scene.feed, Supervision.feed, Supervision.pump_setPump, ↓reduceIte]
      exact (h.copied other).feed item
    · simp only [Scene.feed, Supervision.feed, Supervision.pump_setPump_ne _ _ _ ho, ho, ↓reduceIte]
      exact h.copied other
  told := by
    rw [Scene.feed, Supervision.feed, (w.tasks.setPump_other stream _).2.2]
    exact h.told
  drained hr := by
    rw [Scene.feed, Supervision.feed, (w.tasks.setPump_other stream _).2.2] at hr
    exact w.tasks.drained_setPump stream _ id (h.drained hr)
  recorded := h.recorded

/-- The steps of the child and of the watch before the report touch no pump. -/
theorem Sound.tasks (h : w.Sound c) {tasks : Supervision}
    (hp : ∀ stream, tasks.pump stream = w.tasks.pump stream)
    (hr : tasks.reported = w.tasks.reported) : ({ w with tasks } : Scene).Sound c where
  fd stream := by
    rw [hp stream]
    exact h.fd stream
  piped := h.piped
  copied stream := by
    rw [hp stream]
    exact h.copied stream
  told := by
    rw [hr]
    exact h.told
  drained hr' := by
    rw [hr] at hr'
    rw [Supervision.drained_iff]
    intro stream
    rw [hp stream]
    exact w.tasks.drained_iff.mp (h.drained hr') stream
  recorded := h.recorded

theorem Sound.foreign (h : w.Sound c) {m : Move} (hm : m.isForeign = true) :
    (w.does m).Sound c :=
  ⟨h.fd, h.piped, h.copied, h.told, h.drained, h.recorded.foreign hm⟩

theorem Sound.pumped (h : w.Sound c) {stream : Stream} {q : Pump × Sandbox} {handed : List Bytes}
    (hq : (w.tasks.pump stream).Goes w.stage.sandbox handed q) :
    (w.pumped stream q handed).Sound c := by
  have hfd := h.fd stream
  have hother := w.tasks.setPump_other stream q.1
  -- After the report both pumps are finished, so there is nothing left to hand over.
  have hquiet : w.tasks.reported = true → handed = [] := by
    intro hr
    have hf := w.tasks.drained_iff.mp (h.drained hr) stream
    have hdue := hq.due
    rw [Pump.due_of_finished hf] at hdue
    exact (List.append_eq_nil_iff.mp hdue).1
  rw [Scene.pumped, hfd]
  refine ⟨fun other => ?fd, h.piped, fun other => ?copied, ?told, fun hr => ?drained, ?recorded⟩
  case fd =>
    by_cases ho : other = stream
    · subst ho
      exact (congrArg Pump.fd (Supervision.pump_setPump _ _ _)).trans (hq.fd.trans hfd)
    · exact (congrArg Pump.fd (Supervision.pump_setPump_ne _ _ _ ho)).trans (h.fd other)
  case copied =>
    simp only [goOn, chunks_append]
    by_cases ho : other = stream
    · subst ho
      rw [chunks_data, Supervision.pump_setPump]
      exact (h.copied other).goes hq
    · rw [chunks_data_ne other handed ho, List.append_nil, Supervision.pump_setPump_ne _ _ _ ho]
      exact h.copied other
  case told =>
    simp only [goOn, hother.2.2]
    exact h.told.output_data hquiet stream.fd
  case drained =>
    simp only [goOn, hother.2.2] at hr
    exact w.tasks.drained_setPump stream q.1 hq.stays (h.drained hr)
  case recorded =>
    have hrecorded := h.recorded.reports (handed.map (.data stream.fd))
    rw [← hfd, ← hq.sandbox, hfd] at hrecorded
    exact hrecorded

/-- The report of the end is the last that the tasks tell. -/
theorem Sound.report (h : w.Sound c) : w.report.Sound c := by
  rw [Scene.report, Supervision.report_eq]
  cases hend : w.tasks.ending? with
  | none =>
    simp only [goOn, Option.toList_none, List.append_nil, List.map_nil]
    exact h
  | some e =>
    obtain ⟨⟨raw, -, rfl⟩, hdrained, hreported⟩ := Supervision.ending?_eq_some hend
    obtain ⟨t, ht⟩ := WaitStatus.ending?_event raw
    have hpump (stream : Stream) :
        ({ w.tasks with reported := true } : Supervision).pump stream = w.tasks.pump stream := by
      cases stream <;> rfl
    have htold := h.told
    rw [hreported] at htold
    refine ⟨fun stream => ?fd, h.piped, fun stream => ?copied, htold.report ht, fun _ => hdrained,
      h.recorded.reports [WaitStatus.event raw]⟩
    case fd => exact (congrArg Pump.fd (hpump stream)).trans (h.fd stream)
    case copied =>
      simp only [goOn, hpump, Option.toList_some, chunks_concat_ending stream w.told ht]
      exact h.copied stream

theorem Sound.step (h : w.Sound c) {limits : Limits} {w' : Scene} (hs : Step limits w w') :
    w'.Sound c := by
  cases hs with
  | write stream bytes hb ho => exact h.feed ((h.piped stream).add ho (Pump.ends_data hb))
  | interrupt stream ho => exact h.feed ((h.piped stream).add ho rfl)
  | hangUp stream ho => exact h.feed ((h.piped stream).hangUp ho)
  | ends raw => exact h.tasks (fun stream => by cases stream <;> rfl) rfl
  | expire => exact h.tasks (fun stream => by cases stream <;> rfl) rfl
  | kill =>
    exact (h.foreign rfl).tasks (fun stream => by cases stream <;> rfl) rfl
  | reap => exact h.tasks (fun stream => by cases stream <;> rfl) rfl
  | wait stream =>
    obtain ⟨hsandbox, hgated⟩ := Pump.gated (h.fd stream) w.tasks.reaped w.stage.sandbox
    have hgate : (w.tasks.pump stream).gate w.tasks.reaped w.stage.sandbox =
        (((w.tasks.pump stream).gate w.tasks.reaped w.stage.sandbox).1, w.stage.sandbox) :=
      Prod.ext rfl hsandbox
    rw [hgate]
    exact h.pumped hgated.goes
  | giveUp stream hr hp =>
    have hwaits : (w.tasks.pump stream).phase ≠ .finished := by
      rcases hp with hp | ⟨source, n, hp⟩ <;> rw [hp] <;> exact PumpPhase.noConfusion
    exact h.pumped (.of_unread rfl rfl hwaits PumpPhase.noConfusion)
  | turn stream q hq =>
    obtain ⟨unfinished, hturned⟩ := Pump.turned (h.fd stream) hq
    exact h.pumped (hturned.goes unfinished)
  | report => exact h.report
  | foreign m hm => exact h.foreign hm

theorem Sound.steps (h : w.Sound c) {limits : Limits} {w' : Scene}
    (hs : ReflTransGen (Step limits) w w') : w'.Sound c := by
  induction hs with
  | refl => exact h
  | tail _ hs ih => exact ih.step hs

/-- A pump is polled. -/
def polled (w : Scene) (stream : Stream) : Scene :=
  w.pumped stream ((w.tasks.pump stream).poll w.tasks.reaped w.stage.sandbox)
    ((w.tasks.pump stream).handed w.tasks.reaped w.stage.sandbox)

theorem pumped_pumped (w : Scene) {stream : Stream} {q : Pump × Sandbox}
    (hfd : q.1.fd = (w.tasks.pump stream).fd) (r : Pump × Sandbox) (handed handed' : List Bytes) :
    (w.pumped stream q handed).pumped stream r handed' =
      w.pumped stream r (handed ++ handed') := by
  have hset : (w.tasks.setPump stream q.1).setPump stream r.1 = w.tasks.setPump stream r.1 := by
    cases stream <;> rfl
  simp only [pumped, goOn, Supervision.pump_setPump, hset, hfd, List.map_append, List.append_assoc]

/-- A poll is a row of steps: it reads as long as it can, and then it waits. -/
theorem steps_polled (limits : Limits) (w : Scene) {stream : Stream}
    (hfd : (w.tasks.pump stream).fd = stream.fd) :
    ReflTransGen (Step limits) w (w.polled stream) := by
  rw [polled]
  generalize hp : w.tasks.pump stream = p at hfd ⊢
  generalize hr : w.tasks.reaped = reaped
  generalize hs : w.stage.sandbox = s
  induction p, s using Pump.poll.induct reaped generalizing w with
  | case1 p s q h ih =>
    have hq : q.1.fd = p.fd := by
      obtain ⟨unfinished, hturned⟩ := Pump.turned hfd h
      exact (hturned.goes unfinished).fd
    have hturn : Step limits w (w.pumped stream q p.chunk?.toList) := by
      rw [← hp, ← hr, ← hs] at h
      rw [← hp]
      exact .turn stream q h
    have hrest := ih (w.pumped stream q p.chunk?.toList) (Supervision.pump_setPump _ _ _)
      (hq.trans hfd) ((w.tasks.setPump_other stream q.1).2.1.trans hr) rfl
    rw [w.pumped_pumped (hq.trans (congrArg Pump.fd hp.symm))] at hrest
    rw [Pump.poll_of_turn h, Pump.handed_of_turn h]
    exact .head hturn hrest
  | case2 p s h =>
    have hwait : Step limits w (w.pumped stream (p.gate reaped s) []) := by
      rw [← hp, ← hr, ← hs]
      exact .wait stream
    rw [Pump.poll_of_rest h, Pump.handed_of_rest h]
    exact .single hwait

/-- An end is told only by a report, and that waits for both pumps. -/
theorem Step.finished_of_ending {limits : Limits} {w' : Scene} (hs : Step limits w w')
    (he : w'.told.filterMap ending? ≠ w.told.filterMap ending?) (stream : Stream) :
    (w.tasks.pump stream).phase = .finished := by
  have silent (fd : Int) (handed : List Bytes) :
      (w.told ++ handed.map (EngineEvent.data fd)).filterMap ending? =
        w.told.filterMap ending? := by
    rw [List.filterMap_append, List.filterMap_eq_nil_iff.mpr fun _ hmem => ending?_data handed hmem,
      List.append_nil]
  cases hs with
  | wait source => exact absurd (silent _ _) he
  | giveUp source => exact absurd (silent _ _) he
  | turn source q => exact absurd (silent _ _) he
  | report =>
    rw [Scene.report, Supervision.report_eq] at he
    cases hend : w.tasks.ending? with
    | none =>
      rw [hend] at he
      exact absurd (congrArg (List.filterMap ending?) (List.append_nil w.told)) he
    | some e =>
      obtain ⟨-, hdrained, -⟩ := Supervision.ending?_eq_some hend
      exact w.tasks.drained_iff.mp hdrained stream
  | _ => exact absurd rfl he

/-- A sandbox whose reader is closed has heard the whole story: the output of both pipes, and the
end behind it. -/
theorem Sound.whole_of_closed (h : w.Sound c) {stream : Stream}
    (closed : (w.stage.sandbox.reader stream).closed = true) :
    w.tasks.drained = true ∧ w.stage.sandbox.state.due stream
      ((Stage.ofConfig c).gather Stage.heard w.past) = Pump.chunks (w.sent stream) := by
  have hrun := h.recorded.course
  have hconsistent := Stage.consistent_run c w.past
  have hphase := Stage.phase_run c w.past
  rw [← hrun] at hconsistent hphase
  have hend : w.stage.sandbox.state.isTerminated = true :=
    (hconsistent.linked.closed stream).symm.trans closed
  cases hphase with
  | idle state => rw [state] at hend; cases hend
  | spawning state => rw [state] at hend; cases hend
  | failed state => exact absurd state h.recorded.unfailed
  | live state =>
    rw [state] at hend ⊢
    -- A sandbox that is gone may have missed what was told last, but this one has heard an end.
    have hfirst : firstEnding ((Stage.ofConfig c).gather Stage.heard w.past) ≠ none := by
      intro hnone
      rw [Lifecycle.after_of_no_ending hnone] at hend
      cases hend
    obtain ⟨hreported, hchunks⟩ := h.told.of_heard h.recorded.heard hfirst stream
    have hdrained := h.drained hreported
    refine ⟨hdrained, ?_⟩
    have hcopied := (h.copied stream).chunks
    rw [Pump.due_of_finished (w.tasks.drained_iff.mp hdrained stream), List.append_nil] at hcopied
    rw [Lifecycle.due_after, Lifecycle.tells, chunks_heeded, hchunks, hcopied]

/-- However the child, the pumps, the watch and the embedder take their steps, with or without kills
and a limit on the wall time, the sink is told of the end at most once and only when both pumps have
come to their end. Once a reader that drops nothing is closed, it has taken in every byte that was
written to its pipe, also what a pump asleep for want of room had not read when the child died. -/
theorem output_precedes_end (c : Config) (limits : Limits) (before : List Move)
    (options : SpawnOptions) (w : Scene)
    (idle : ((Stage.ofConfig c).run before).sandbox.state = .idle)
    (present : ((Stage.ofConfig c).run before).sandbox.present = true)
    (h : ReflTransGen (Step limits) (begun c before options) w) :
    (w.told.filterMap ending?).length ≤ 1 ∧
    (∀ w', Step limits w w' → w'.told.filterMap ending? ≠ w.told.filterMap ending? →
      ∀ stream, (w.tasks.pump stream).phase = .finished) ∧
    ((∀ capacity, c.outputBuffer ≠ .dropNewest capacity) →
      ∀ stream, (w.stage.sandbox.reader stream).closed = true →
        (∀ source, (w.tasks.pump source).phase = .finished) ∧
        (Stage.ofConfig c).gather (Stage.taken stream) w.past ++
          (w.stage.sandbox.reader stream).content = (w.sent stream).flatMap PipeItem.bytes) := by
  have hw : w.Sound c := (sound_begun options idle present).steps h
  refine ⟨?once, fun w' hs he => hs.finished_of_ending he, fun hne stream closed => ?whole⟩
  case once =>
    rw [hw.told.endings]
    split <;> decide
  case whole =>
    obtain ⟨hdrained, hdue⟩ := hw.whole_of_closed closed
    refine ⟨w.tasks.drained_iff.mp hdrained, ?_⟩
    obtain ⟨hempty, -, hpolicy, -⟩ := Sandbox.reader_ofConfig c stream
    have hbooks := Stage.dealings_run c w.past stream
    have hoffered := Stage.offered_run c w.past stream
    rw [← hw.recorded.course] at hbooks hoffered
    have hkept := (hbooks.whole (hpolicy.symm ▸ hne)).1
    rw [hempty, List.nil_append] at hkept
    rw [hkept, hoffered, hdue, Pump.flatten_chunks, (hw.piped stream).text]

/-- A pump is asleep in front of a full reader when the embedder kills the child. What it had not
read then is taken in before the end. -/
theorem parked_output_precedes_end :
    let c : Config := { outputBuffer := .suspend 1 }
    let limits : Limits := { wallTimeMs := some 5 }
    ∃ parked w, ReflTransGen (Step limits) (begun c [] { program := "" }) parked ∧
      (parked.tasks.pump .stdout).phase = .asleep .stdout 1 ∧
      (parked.tasks.pump .stdout).pipe = [.data [3]] ∧
      ReflTransGen (Step limits) parked w ∧
      w.told = [.data 1 [1, 2], .data 1 [3], .signal 9] ∧
      (w.stage.sandbox.reader .stdout).closed = true ∧
      (Stage.ofConfig c).gather (Stage.taken .stdout) w.past ++
        (w.stage.sandbox.reader .stdout).content = [1, 2, 3] := by
  intro c limits
  let w₀ := (begun c [] { program := "" }).does (.spawnReturns (.ok ()))
  let w₁ := (w₀.feed .stdout (.data [1, 2])).polled .stdout
  let w₂ := ((w₁.feed .stdout (.data [3])).does (.read .stdout (some 1))).polled .stdout
  let w₃ := { (w₂.does .kill).childEnds killed with tasks := (w₂.tasks.childEnds killed).reap }
  let w₄ := (w₃.feed .stdout .endOfStream).feed .stderr .endOfStream
  let w₅ := (w₄.polled .stdout).polled .stderr
  have h₁ : ReflTransGen (Step limits) w₀ w₁ :=
    .head (.write .stdout [1, 2] (by decide) (by decide +kernel))
      (steps_polled limits _ (by decide +kernel))
  have h₂ : ReflTransGen (Step limits) w₁ w₂ :=
    .head (.write .stdout [3] (by decide) (by decide +kernel))
      (.head (.foreign (.read .stdout (some 1)) rfl) (steps_polled limits _ (by decide +kernel)))
  have h₃ : ReflTransGen (Step limits) w₂ w₃ := .head (.kill (by decide +kernel)) (.single .reap)
  have h₄ : ReflTransGen (Step limits) w₃ w₄ :=
    .head (.hangUp .stdout (by decide +kernel)) (.single (.hangUp .stderr (by decide +kernel)))
  have h₅ : ReflTransGen (Step limits) w₄ w₅ :=
    (steps_polled limits w₄ (by decide +kernel)).trans
      (steps_polled limits (w₄.polled .stdout) (by decide +kernel))
  have hparked : ReflTransGen (Step limits) (begun c [] { program := "" }) w₂ :=
    .head (.foreign (.spawnReturns (.ok ())) rfl) (h₁.trans h₂)
  have hreported : ReflTransGen (Step limits) w₂ w₅.report := (h₃.trans (h₄.trans h₅)).tail .report
  have hclosed : (w₅.report.stage.sandbox.reader .stdout).closed = true := by decide +kernel
  obtain ⟨-, -, hwhole⟩ := output_precedes_end c limits [] { program := "" } w₅.report rfl rfl
    (hparked.trans hreported)
  have hbytes := (hwhole (fun _ => BufferPolicy.noConfusion) .stdout hclosed).2
  refine ⟨w₂, w₅.report, hparked, by decide +kernel, by decide +kernel, hreported,
    by decide +kernel, hclosed, hbytes.trans ?_⟩
  decide +kernel

theorem Sound.polled (h : w.Sound c) (stream : Stream) : (w.polled stream).Sound c :=
  h.pumped (Pump.poll_goes (h.fd stream) w.tasks.reaped w.stage.sandbox)

/-- After the reaping a poll of a pipe that is hung up finishes its pump. -/
theorem Sound.polled_finished (h : w.Sound c) {stream : Stream} (hr : w.tasks.reaped = true)
    (hup : .endOfStream ∈ w.sent stream) :
    ((w.polled stream).tasks.pump stream).phase = .finished := by
  have hpump : (w.polled stream).tasks.pump stream =
      ((w.tasks.pump stream).poll w.tasks.reaped w.stage.sandbox).1 :=
    Supervision.pump_setPump _ _ _
  rw [hpump]
  by_cases hf : (w.tasks.pump stream).phase = .finished
  · exact (Pump.poll_goes (h.fd stream) w.tasks.reaped w.stage.sandbox).stays hf
  · have hbeyond := (h.copied stream).beyond
    have hdrains := (Pump.poll_reaped (h.fd stream) hf w.stage.sandbox).2
    rw [Pump.beyond?_of_not_finished hf, (h.piped stream).pastEnd?_hungUp hup] at hbeyond
    rw [hbeyond] at hdrains
    rw [hr]
    exact hdrains.1

/-- Once the child has ended and both pipes are hung up, the watch and the pumps alone can bring the
report about, however full the readers are. -/
theorem Sound.reports_at_last (h : w.Sound c) (limits : Limits)
    (hend : w.tasks.ended.isSome = true) (hup : ∀ stream, .endOfStream ∈ w.sent stream) :
    ∃ w', ReflTransGen (Step limits) w w' ∧ w'.tasks.reported = true ∧ w'.sent = w.sent := by
  let w₁ : Scene := { w with tasks := w.tasks.reap }
  let w₂ := w₁.polled .stdout
  let w₃ := w₂.polled .stderr
  have hreap : Step limits w w₁ := .reap
  have h₁ : w₁.Sound c := h.step hreap
  have h₂ : w₂.Sound c := h₁.polled .stdout
  obtain ⟨hend₂, hr₂, -⟩ := w₁.tasks.setPump_other .stdout
    ((w₁.tasks.pump .stdout).poll w₁.tasks.reaped w₁.stage.sandbox).1
  obtain ⟨hend₃, hr₃, -⟩ := w₂.tasks.setPump_other .stderr
    ((w₂.tasks.pump .stderr).poll w₂.tasks.reaped w₂.stage.sandbox).1
  have hreaped : w₁.tasks.reaped = true :=
    (congrArg (w.tasks.reaped || ·) hend).trans (Bool.or_true _)
  have hout : (w₂.tasks.pump .stdout).phase = .finished := h₁.polled_finished hreaped (hup .stdout)
  have herr : (w₃.tasks.pump .stderr).phase = .finished :=
    h₂.polled_finished (hr₂.trans hreaped) (hup .stderr)
  have hdrained : w₃.tasks.drained = true := by
    rw [Supervision.drained_iff]
    intro stream
    cases stream with
    | stdout => exact hout
    | stderr => exact herr
  have hended : w₃.tasks.ended.isSome = true :=
    (congrArg Option.isSome (hend₃.trans hend₂)).trans hend
  refine ⟨w₃.report, ?path, Supervision.report_reported hended
    (hr₃.trans (hr₂.trans hreaped)) hdrained w₃.stage.sandbox, rfl⟩
  case path =>
    exact .head hreap ((steps_polled limits w₁ (h₁.fd .stdout)).trans
      ((steps_polled limits w₂ (h₂.fd .stderr)).tail .report))

end Scene

end Confine
