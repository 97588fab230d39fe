import Confine.Proofs.Sandbox.Calls
import Confine.Proofs.Sandbox.Publishing

/-!
A spawn that fails. What the engine reported during its call is forgotten, nothing was ever
announced or published, and whatever comes afterwards finds the same closed sandbox.
-/

namespace Confine

namespace Reader

/-- Nothing comes out of the reader any more. -/
structure Spent (r : Reader) : Prop where
  closed : r.closed = true
  empty : r.chunks = []

section Spent

variable {r : Reader} (h : r.Spent)

include h

theorem Spent.readMax (max : Option Nat) : r.readMax max = (r, .closed) := by
  rw [readMax_vacant (.inr h.empty), vacant, if_pos ⟨h.empty, h.closed⟩]

/-- A wait for a chunk ends at once, without any. -/
theorem Spent.pollRead : r.pollRead none = (r, .ready none) := by
  simp only [Reader.pollRead, read, h.readMax, reduceCtorEq, ↓reduceIte]

/-- A wait for everything ends at once, with what it had. -/
theorem Spent.pollReadToEnd (taken : Bytes) :
    (r.pollReadToEnd taken none).2 = (taken, .ready ()) := by
  simp only [Reader.pollReadToEnd, drain, vacant, h.empty, h.closed, List.flatten_nil,
    List.append_nil, reduceCtorEq, and_self, ↓reduceIte]

end Spent

end Reader

/-- Without any offer nothing is published about output. -/
theorem Hub.Tells.silent {h : Hub} {offers : Stream → List Offer} (ht : h.Tells offers)
    (hnone : ∀ stream, offers stream = []) :
    h.data.sent = [] ∧ ∀ fd count, .bytesDropped fd count ∉ h.faults.sent := by
  refine ⟨List.eq_nil_iff_forall_not_mem.mpr fun n hn => ?_, fun fd count hf => ?_⟩
  · obtain ⟨stream, hfd⟩ := ht.notices n hn
    have hlen := len_mem_lens hn hfd
    rw [ht.lens, hnone] at hlen
    cases hlen
  · obtain ⟨stream, hfd⟩ := ht.faults fd count hf
    have hcount := count_mem_drops hf hfd
    rw [ht.drops, hnone] at hcount
    cases hcount

namespace Sandbox

theorem route_of_closed {s : Sandbox} {stream : Stream} (h : (s.reader stream).closed = true)
    (bytes : Bytes) : s.route stream bytes = (s, false) := by
  simp only [route, Reader.push_of_closed _ _ h, setReader_reader]

/-- After the end an event changes nothing, unless its descriptor has no reader. -/
theorem Applied.of_terminated {s : Sandbox} {e : EngineEvent}
    {p : Sandbox × Except SandboxError Bool} (h : s.Applied e p) (hl : s.Linked) {t : Termination}
    (ht : s.state = .terminated t) (hk : e.known = true) : p = (s, .ok false) := by
  have hr : s.state ≠ .running := by
    rw [ht]
    exact Lifecycle.noConfusion
  cases h with
  | unknown fd bytes hu => exact absurd (of_decide_eq_true hk) hu
  | routed stream bytes =>
    have closed : (s.reader stream).closed = true := by
      rw [hl.closed, ht]
      rfl
    rw [route_of_closed closed]
  | ended _ _ _ _ _ hrunning => exact absurd hrunning hr
  | late => rfl
  | announced path hrunning => exact absurd hrunning hr
  | ignored => rfl

theorem Linked.deliver_of_terminated {s : Sandbox} (hl : s.Linked) {t : Termination}
    (ht : s.state = .terminated t) {e : EngineEvent} (hk : e.known = true) :
    s.deliver e = (s, .ok false) := by
  cases present : s.present with
  | false => simp only [deliver, present, Bool.not_false, ↓reduceIte]
  | true =>
    have hs : s.state ≠ .spawning := by
      rw [ht]
      exact Lifecycle.noConfusion
    rw [deliver_of_not_spawning present hs]
    exact (s.applied e).of_terminated hl ht hk

end Sandbox

namespace Stage

section Terminated

variable {w : Stage} (hw : w.Consistent) {t : Termination} (ht : w.sandbox.state = .terminated t)

include hw ht

theorem report_of_terminated {e : EngineEvent} (hk : e.known = true) :
    w.answer (.report e) = .result (.ok (.flag false)) ∧ w.next (.report e) = w := by
  have sink : w.hasSink = true := by
    rw [hw.sink_iff, ht]
    exact Lifecycle.noConfusion
  rw [answer_report sink, next_report sink, hw.linked.deliver_of_terminated ht hk]
  exact ⟨rfl, rfl⟩

/-- After the end the engine gets no calls. -/
theorem calls_of_terminated (m : Move) : w.calls m = [] := by
  have hasking := asking hw m
  generalize w.calls m = calls at hasking
  cases hasking with
  | nothing => rfl
  | spawn _ _ _ idle => exact absurd (ht.symm.trans idle) Lifecycle.noConfusion
  | kill _ running => exact absurd (ht.symm.trans running) Lifecycle.noConfusion
  | write _ _ _ running => exact absurd (ht.symm.trans running) Lifecycle.noConfusion
  | close _ running => exact absurd (ht.symm.trans running) Lifecycle.noConfusion

end Terminated

theorem kill_of_terminated {w : Stage} {t : Termination} (present : w.sandbox.present = true)
    (ht : w.sandbox.state = .terminated t) : w.answer .kill = .result (.ok .nothing) := by
  simp only [answer, act, owner, present, Sandbox.killForwarded, ht, ↓reduceIte]

theorem spawnReturns_error {w : Stage} (call : w.inCall = true) (e : EngineError) :
    w.answer (.spawnReturns (.error e)) = .result (.error (.spawn e)) ∧
      w.next (.spawnReturns (.error e)) =
        { w with sandbox := w.sandbox.spawnFailed, inCall := false } := by
  simp only [answer, next, act, call, Bool.not_true, Bool.false_eq_true, ↓reduceIte]
  exact ⟨rfl, rfl⟩

section Failed

variable (c : Config) {ms : List Move}
  (failed : ((ofConfig c).run ms).sandbox.state = .terminated .spawnFailed)

include failed

theorem offers_of_failed (stream : Stream) : (ofConfig c).gather (offers stream) ms = [] := by
  have hdue := offered_run c ms stream
  rw [failed] at hdue
  exact List.map_eq_nil_iff.mp hdue

/-- After a spawn that failed the readers are as they were made, but closed. -/
theorem reader_of_failed (stream : Stream) :
    let r := ((ofConfig c).run ms).sandbox.reader stream
    r.Spent ∧ r.length = 0 ∧ r.dropped = 0 := by
  intro r
  have hbooks := dealings_run c ms stream
  have hr : r.WellFormed := wellFormed_run c ms stream
  obtain ⟨hempty, hzero, -, -⟩ := Sandbox.reader_ofConfig c stream
  rw [offers_of_failed c failed stream] at hbooks
  have hcontent : r.content = [] := by
    have hturnover := hbooks.turnover.content
    rw [hempty] at hturnover
    exact (List.append_eq_nil_iff.mp hturnover).2
  have closed : r.closed = true := by
    rw [(consistent_run c ms).linked.closed stream, failed]
    rfl
  refine ⟨⟨closed, hr.chunks_eq_nil.mpr hcontent⟩, ?_, ?_⟩
  · rw [hr.length_eq, hcontent]
    rfl
  · exact hbooks.turnover.dropped.trans hzero

theorem silent_of_failed :
    let hub := ((ofConfig c).run ms).sandbox.hub
    (hub.lifecycle.sent = [] ∧ hub.started.sent = [] ∧ hub.newSocket.sent = [] ∧
      hub.exit.sent = [] ∧ hub.signal.sent = []) ∧
    hub.data.sent = [] ∧ ∀ fd count, .bytesDropped fd count ∉ hub.faults.sent := by
  intro hub
  have hsilent : hub.lifecycle.sent = [] := by
    cases phase_run c ms with
    | idle state unheard silent => exact silent
    | spawning state queued silent => exact silent
    | failed state silent => exact silent
    | live state =>
      have hlive := Lifecycle.after_eq_spawnFailed.mp (state.symm.trans failed)
      exact absurd hlive Lifecycle.noConfusion
  have hsorted : hub.Sorted := (grows_run c ms).sorted (Hub.sorted_ofCapacity c.eventCapacity)
  exact ⟨⟨hsilent, hsorted.silent hsilent⟩, (tells_run c ms).silent (offers_of_failed c failed)⟩

end Failed

/-- A spawn that fails is the end, and leaves nothing behind. Whatever was reported during the
engine's call, no event and no notice is ever sent, the readers are closed with nothing in them, and
later reports, reads and requests to kill find all of this unchanged. -/
theorem failed_spawn_final (c : Config) (ms : List Move)
    (call : ((ofConfig c).run ms).inCall = true) (e : EngineError) (ns : List Move) :
    let w := (ofConfig c).run ms
    let w' := (w.next (.spawnReturns (.error e))).run ns
    let s := w'.sandbox
    w.answer (.spawnReturns (.error e)) = .result (.error (.spawn e)) ∧
    s.state = .terminated .spawnFailed ∧
    (s.hub.lifecycle.sent = [] ∧ s.hub.started.sent = [] ∧ s.hub.newSocket.sent = [] ∧
      s.hub.exit.sent = [] ∧ s.hub.signal.sent = []) ∧
    (s.hub.data.sent = [] ∧ ∀ fd count, .bytesDropped fd count ∉ s.hub.faults.sent) ∧
    (∀ stream,
      let r := s.reader stream
      (r.closed = true ∧ r.chunks = [] ∧ r.length = 0 ∧ r.dropped = 0) ∧
      (∀ max, w'.answer (.read stream max) = .read .closed) ∧
      (r.pollRead none).2 = .ready none ∧ (r.pollReadToEnd [] none).2 = ([], .ready ())) ∧
    (s.pending = [] ∧ s.engineHeld = false) ∧
    (∀ event, event.known = true →
      w'.answer (.report event) = .result (.ok (.flag false)) ∧ w'.next (.report event) = w') ∧
    (s.present = true → w'.answer .kill = .result (.ok .nothing)) ∧
    ∀ m, w'.calls m = [] := by
  intro w w' s
  obtain ⟨hanswer, hnext⟩ := spawnReturns_error (w := w) call e
  -- Records only grow, so those at the end of the whole course tell of every moment of it.
  let whole := ms ++ .spawnReturns (.error e) :: ns
  have hrun : (ofConfig c).run whole = w' := run_append (ofConfig c) ms _
  have hw : w'.Consistent := hrun ▸ consistent_run c whole
  have hfailed : s.state = .terminated .spawnFailed := by
    have hreturned := (consistent_run c ms).turn (w.turn (.spawnReturns (.error e)))
    have hforward := advances_run hreturned ns
    rw [hnext] at hforward
    have hstate := Lifecycle.terminated_of_advances hforward
    rw [← hnext] at hstate
    exact hstate
  have hwhole : ((ofConfig c).run whole).sandbox.state = .terminated .spawnFailed :=
    hrun ▸ hfailed
  have hsilent := silent_of_failed c hwhole
  rw [hrun] at hsilent
  refine ⟨hanswer, hfailed, hsilent.1, hsilent.2, fun stream => ?readers, ⟨?queue, ?engine⟩,
    fun event hk => report_of_terminated hw hfailed hk,
    fun present => kill_of_terminated present hfailed, calls_of_terminated hw hfailed⟩
  case readers =>
    have hreader := reader_of_failed c hwhole stream
    rw [hrun] at hreader
    obtain ⟨hspent, hlength, hdropped⟩ := hreader
    refine ⟨⟨hspent.closed, hspent.empty, hlength, hdropped⟩, fun max => ?_,
      congrArg Prod.snd hspent.pollRead, hspent.pollReadToEnd []⟩
    exact congrArg (fun read => Answer.read read.2) (hspent.readMax max)
  case queue =>
    refine hw.pending_nil ?_
    rw [hfailed]
    exact Lifecycle.noConfusion
  case engine =>
    rw [hw.linked.engineHeld, hfailed]
    exact Bool.and_false _

/-- Output, a socket and an exit wait for the end of the call when it fails, and the engine goes on
to report. -/
theorem failed_cat_final :
    let ms : List Move := [.spawn { program := "cat" }, .report (.data 1 [1, 2]),
      .report (.newSocket "/run/cat"), .report (.exit 0)]
    let ns : List Move := [.report (.data 2 [3]), .report (.signal 9), .drop]
    let w := (ofConfig {}).run ms
    let w' := (w.next (.spawnReturns (.error .notRunning))).run ns
    (w.inCall = true ∧ w.sandbox.pending.length = 3) ∧
    w'.sandbox.state = .terminated .spawnFailed ∧ w'.sandbox.hub.lifecycle.sent = [] ∧
    w'.sandbox.hub.data.sent = [] ∧ w'.sandbox.stderr.chunks = [] ∧
    w'.answer (.read .stdout (some 0)) = .read .closed ∧ w'.sandbox.pending = [] := by
  intro ms ns w w'
  have call : w.inCall = true := by decide +kernel
  obtain ⟨-, hstate, hevents, houtput, hreaders, hqueue, -⟩ :=
    failed_spawn_final {} ms call .notRunning ns
  refine ⟨⟨call, by decide +kernel⟩, hstate, hevents.1, houtput.1, ?_, ?_, hqueue.1⟩
  · exact (hreaders .stderr).1.2.1
  · exact (hreaders .stdout).2.1 (some 0)

end Stage

end Confine
