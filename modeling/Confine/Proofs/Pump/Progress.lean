import Confine.Proofs.Pump.Copying
import Confine.Proofs.Reader.Waking

/-!
When a pump stalls, and when it cannot. Before the reaping it may sleep for want of room, but only
as long as there is none; after it, one poll takes in whatever lies in the pipe.
-/

namespace Confine

open EngineEvent

namespace Reader

theorem close_drains (r : Reader) : r.close.1 = r ∨ r.drains < r.close.1.drains := by
  rw [close]
  split
  · exact .inl rfl
  · exact .inr (Nat.lt_succ_self _)

theorem readMax_drains (r : Reader) (max : Option Nat) :
    (r.readMax max).1 = r ∨ r.drains < (r.readMax max).1.drains := by
  rcases r.readMax_cases max with ⟨-, he⟩ | ⟨front, left, rest, -, -, -, -, he⟩
  · rw [he]
    exact .inl rfl
  · rw [he]
    exact .inr (Nat.lt_succ_self _)

end Reader

namespace Sandbox

/-- The report of an end leaves a reader alone or closes it. -/
theorem deliver_exit_reader (s : Sandbox) (status : Int) (stream : Stream) :
    let r := (s.deliver (.exit status)).1.reader stream
    r = s.reader stream ∨ r = (s.reader stream).close.1 := by
  rw [deliver]
  split
  · exact .inl rfl
  · split
    · cases stream <;> exact .inl rfl
    · have happlied := s.applied (.exit status)
      generalize s.apply (.exit status) = result at happlied
      cases happlied with
      | ended _ t event => cases stream <;> exact .inr rfl
      | late => exact .inl rfl

theorem deliver_exit_drains (s : Sandbox) (status : Int) (stream : Stream) :
    let r := (s.deliver (.exit status)).1.reader stream
    r = s.reader stream ∨ (s.reader stream).drains < r.drains := by
  rcases s.deliver_exit_reader status stream with hr | hr
  · exact .inl hr
  · rw [hr]
    exact (s.reader stream).close_drains

theorem readMax_drains (s : Sandbox) (source : Stream) (max : Option Nat) (stream : Stream) :
    let r := (s.readMax source max).1.reader stream
    r = s.reader stream ∨ (s.reader stream).drains < r.drains := by
  by_cases hs : stream = source
  · subst hs
    rw [readMax_reader]
    exact (s.reader stream).readMax_drains max
  · rw [s.readMax_reader_ne max hs]
    exact .inl rfl

/-- While the child runs, what is reported is applied at once. -/
theorem hear_eq_replay {s : Sandbox} (present : s.present = true) (state : s.state ≠ .spawning)
    (es : List EngineEvent) : s.hear es = s.replay es := by
  have hhear := Stage.run_hear { sandbox := s, hasSink := true } rfl es
  have hreplay := Stage.run_reports { sandbox := s, hasSink := true } rfl present state es
  exact congrArg Stage.sandbox (hhear.symm.trans hreplay)

end Sandbox

/-- A running sandbox whose reader drops nothing buffers every chunk. -/
theorem Sandbox.Linked.replay_data {s : Sandbox} (h : s.Linked) (running : s.state = .running)
    {stream : Stream} (hne : ∀ capacity, (s.reader stream).policy ≠ .dropNewest capacity)
    (chunks : List Bytes) : ((s.replay (chunks.map (.data stream.fd))).reader stream).content =
      (s.reader stream).content ++ chunks.flatten := by
  have hbooks := s.replay_dealings stream (chunks.map (.data stream.fd))
  have hidle : s.state ≠ .idle := by rw [running]; exact Lifecycle.noConfusion
  have hspawning : s.state ≠ .spawning := by rw [running]; exact Lifecycle.noConfusion
  have hoffers := h.offers_chunk hidle hspawning stream (chunks.map (.data stream.fd))
  rw [running, tells_data] at hoffers
  have hcontent := (hbooks.whole hne).1
  rw [hoffers, List.nil_append] at hcontent
  exact hcontent

/-- A sleeper is called by every change that could have made room. -/
theorem Pump.Settled.of_drains {p : Pump} {stream : Stream} {r r' : Reader}
    (h : p.Settled stream r) (hr : r' = r ∨ r.drains < r'.drains) : p.Settled stream r' := by
  intro source n hp
  obtain ⟨hsource, hle, hfull⟩ := h source n hp
  rcases hr with rfl | hlt
  · exact ⟨hsource, hle, hfull⟩
  · exact ⟨hsource, by omega, fun heq => by omega⟩

namespace Copying

open Pump

theorem settled_next {w : Copying} {stream : Stream} (hfd : w.pump.fd = stream.fd)
    (h : w.pump.Settled stream (w.sandbox.reader stream)) (t : Step) :
    (w.next t).pump.Settled stream ((w.next t).sandbox.reader stream) := by
  cases t with
  | feed item => exact h
  | reap => exact h
  | exit status => exact h.of_drains (w.sandbox.deliver_exit_drains status stream)
  | drop => cases stream <;> exact h
  | read source max => exact h.of_drains (w.sandbox.readMax_drains source max stream)
  | poll =>
    rw [next_poll hfd]
    exact (poll_rests hfd w.reaped h).1

theorem settled_run (c : Config) (stream : Stream) (ts : List Step) :
    let w := (ofConfig c stream.fd).run ts
    w.pump.Settled stream (w.sandbox.reader stream) := by
  refine (foldl_induction (P := fun _ w => w.pump.fd = stream.fd ∧
    w.pump.Settled stream (w.sandbox.reader stream)) next (ofConfig c stream.fd) ?start ?step ts).2
  case start => exact ⟨rfl, settled_of_awake (fun _ _ => PumpPhase.noConfusion) _ _⟩
  case step =>
    intro ts t h
    exact ⟨next_fd h.1 t, settled_next h.1 h.2 t⟩

theorem Followed.consistent {c : Config} {stream : Stream} {ts : List Step} {w : Copying}
    (h : Followed c stream ts w) : w.stage.Consistent := by
  rw [h.course]
  exact Stage.consistent_run c (opening ++ (ofConfig c stream.fd).gather moves ts)

theorem Followed.linked {c : Config} {stream : Stream} {ts : List Step} {w : Copying}
    (h : Followed c stream ts w) : w.sandbox.Linked := h.consistent.linked

/-- The books of the readers while a pump is at work. -/
theorem Followed.reader {c : Config} {stream : Stream} {ts : List Step} {w : Copying}
    (h : Followed c stream ts w) :
    (w.sandbox.reader stream).policy = c.outputBuffer ∧ (w.sandbox.reader stream).WellFormed ∧
      ((∀ capacity, c.outputBuffer ≠ .dropNewest capacity) →
        (w.sandbox.reader stream).dropped = 0) := by
  have hbooks := Stage.dealings_run c (opening ++ (ofConfig c stream.fd).gather moves ts) stream
  obtain ⟨-, hzero, hpolicy, hfresh⟩ := Sandbox.reader_ofConfig c stream
  rw [← h.course] at hbooks
  refine ⟨hbooks.turnover.policy.trans hpolicy, hbooks.turnover.wellFormed hfresh, fun hne => ?_⟩
  exact (hbooks.whole (hpolicy.symm ▸ hne)).2.trans hzero

/-- What a poll shows tells whether the pump is finished. -/
theorem step_poll {w : Copying} {stream : Stream} (hfd : w.pump.fd = stream.fd)
    (unfinished : w.pump.phase ≠ .finished) :
    (w.step .poll).2 = if (w.next .poll).pump.phase = .finished then .ready else .pending := by
  rw [next_poll hfd, step, if_neg unfinished]

theorem unfinished_of_pending {w : Copying} {stream : Stream} (hfd : w.pump.fd = stream.fd)
    (h : (w.step .poll).2 = .pending) : (w.next .poll).pump.phase ≠ .finished := by
  intro hf
  by_cases hbefore : w.pump.phase = .finished
  · rw [step, if_pos hbefore] at h
    cases h
  · rw [step_poll hfd hbefore, if_pos hf] at h
    cases h

/-- A pump stalls only in front of an empty pipe, or for want of room before the child is reaped.
After the reaping one poll takes in the pipe up to its end, however full the reader is; a running
sandbox that asks its producers to wait has then buffered all of it. -/
theorem stalls_for_room (c : Config) (stream : Stream) (ts : List Step) :
    let w := (ofConfig c stream.fd).run ts
    let w' := w.next .poll
    let outcome := (w.step .poll).2
    let r := w.sandbox.reader stream
    let r' := w'.sandbox.reader stream
    (outcome = .pending → w'.pump.pipe = [] ∨ w.reaped = false ∧
      ∃ capacity, c.outputBuffer = .suspend capacity ∧ r'.closed = false ∧
        max capacity 1 ≤ r'.length) ∧
    (w.reaped = true → w.pump.phase ≠ .finished →
      w.handed .poll = chunks w.pump.pipe ∧
      (match pastEnd? w.pump.pipe with
        | some rest => outcome = .ready ∧ w'.pump.phase = .finished ∧ w'.pump.pipe = rest
        | none => outcome = .pending ∧ w'.pump.pipe = []) ∧
      ∀ capacity, c.outputBuffer = .suspend capacity → w.sandbox.present = true →
        w.sandbox.state = .running → r'.content = r.content ++ text w.pump.pipe ∧
          r'.length = r.length + (text w.pump.pipe).length ∧ r'.dropped = 0) := by
  intro w w' outcome r r'
  have h : Followed c stream ts w := followed_run c stream ts
  have h' : Followed c stream (ts ++ [.poll]) w' := by
    have hrun := followed_run c stream (ts ++ [.poll])
    rw [run, List.foldl_append] at hrun
    exact hrun
  have hs : w.pump.Settled stream r := settled_run c stream ts
  have hpump : w'.pump = (w.pump.poll w.reaped w.sandbox).1 :=
    congrArg Copying.pump (next_poll h.fd)
  have hsandbox : w'.sandbox = (w.pump.poll w.reaped w.sandbox).2 :=
    congrArg Copying.sandbox (next_poll h.fd)
  obtain ⟨hpolicy, hbooks, -⟩ := h.reader
  obtain ⟨hpolicy', hbooks', hdropped'⟩ := h'.reader
  refine ⟨?stall, fun reaped unfinished => ?drain⟩
  case stall =>
    intro hpending
    have hrest := (poll_rests h.fd w.reaped hs).2
    rw [← hpump, ← hsandbox] at hrest
    rcases hrest with hf | hpipe | ⟨hr, hfull⟩
    · exact absurd hf (unfinished_of_pending h.fd hpending)
    · exact .inl hpipe
    · obtain ⟨capacity, hp, hopen, hlen⟩ := Reader.full_of_not_writable hfull
      exact .inr ⟨hr, capacity, hpolicy'.symm.trans hp, hopen, hlen⟩
  case drain =>
    obtain ⟨hhanded, hpipe⟩ := poll_reaped h.fd unfinished w.sandbox
    rw [reaped] at hpump hsandbox
    rw [← hpump] at hpipe
    have hhanded : w.handed .poll = chunks w.pump.pipe := by rw [handed, reaped, hhanded]
    refine ⟨hhanded, ?rest, ?buffered⟩
    case rest =>
      have houtcome : outcome = if w'.pump.phase = .finished then .ready else .pending :=
        step_poll h.fd unfinished
      rw [houtcome]
      cases hend : pastEnd? w.pump.pipe with
      | some rest =>
        rw [hend] at hpipe
        exact ⟨if_pos hpipe.1, hpipe⟩
      | none =>
        rw [hend] at hpipe
        exact ⟨if_neg hpipe.1, hpipe.2⟩
    case buffered =>
      intro capacity hbuffer present running
      have hne (n : Nat) : c.outputBuffer ≠ .dropNewest n := by
        rw [hbuffer]
        exact BufferPolicy.noConfusion
      have hstate : w.sandbox.state ≠ .spawning := by
        rw [running]
        exact Lifecycle.noConfusion
      have hreplay : w'.sandbox =
          w.sandbox.replay ((chunks w.pump.pipe).map (.data stream.fd)) := by
        have hgoes := poll_goes h.fd true w.sandbox
        rw [hsandbox, hgoes.sandbox, (poll_reaped h.fd unfinished w.sandbox).1, h.fd]
        exact Sandbox.hear_eq_replay present hstate _
      have hcontent : r'.content = r.content ++ text w.pump.pipe := by
        have hkept := h.linked.replay_data running (hpolicy.symm ▸ hne) (chunks w.pump.pipe)
        rw [← hreplay, flatten_chunks] at hkept
        exact hkept
      have hlength : r'.length = r.length + (text w.pump.pipe).length := by
        rw [hbooks'.length_eq, hcontent, List.length_append, ← hbooks.length_eq]
      exact ⟨hcontent, hlength, hdropped' hne⟩

/-- With room for one byte the pump stops after the first chunk; once the child is reaped it takes
in the rest without a read. -/
example :
    let w := (ofConfig { outputBuffer := .suspend 1 } Stream.stdout.fd).run
      [.feed (.data [1, 2]), .feed .interrupted, .feed (.data [3]), .feed .endOfStream, .poll]
    w.pump.pipe = [.interrupted, .data [3], .endOfStream] ∧ (w.step .poll).2 = .pending ∧
      ((w.next .reap).step .poll).2 = .ready ∧
      (((w.next .reap).next .poll).sandbox.reader .stdout).content = [1, 2, 3] := by
  decide +kernel

end Copying

end Confine
