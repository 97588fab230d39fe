import Confine.Proofs.Pump.Progress
import Confine.Proofs.Reader.Chunking
import Confine.Proofs.Sandbox.Advice
import Confine.Proofs.Sandbox.Publishing

/-!
How much a pump can pile up. Before the child is reaped it begins a read only when it has found
room, and whatever else happens until the read is done leaves no more behind than there was; so the
buffer outgrows its capacity by one read at most.
-/

namespace Confine

open EngineEvent

namespace Reader

/-- A change by which a reader may give some bytes away, but gets none. -/
structure Eases (r r' : Reader) (taken : Bytes) : Prop where
  turnover : r.Turnover r' taken [] 0
  length_le : r'.length ≤ r.length
  closed : r.closed = true → r'.closed = true

theorem Eases.refl (r : Reader) : r.Eases r [] := ⟨.refl r, Nat.le_refl _, id⟩

theorem close_eases (r : Reader) : r.Eases r.close.1 [] := by
  refine ⟨r.close_turnover, ?_, fun _ => r.close_closed⟩
  rw [close]
  split <;> exact Nat.le_refl _

theorem readMax_eases (r : Reader) (max : Option Nat) :
    r.Eases (r.readMax max).1 (r.readMax max).2.bytes := by
  refine ⟨r.readMax_turnover max, ?_, fun h => (r.readMax_closed max).trans h⟩
  rcases r.readMax_cases max with ⟨-, he⟩ | ⟨front, left, rest, -, -, -, -, he⟩
  · exact Nat.le_of_eq (congrArg (fun p => p.1.length) he)
  · rw [he]
    exact Nat.sub_le _ _

/-- Room is lost by pushes alone. -/
theorem Eases.writable {r r' : Reader} {taken : Bytes} (h : r.Eases r' taken)
    (hw : r.writable = true) : r'.writable = true := by
  cases hw' : r'.writable with
  | true => rfl
  | false =>
    obtain ⟨capacity, hp, hopen, hfull⟩ := full_of_not_writable hw'
    have hclosed : r.closed = false := by
      cases hc : r.closed with
      | false => rfl
      | true => exact (h.closed hc).symm.trans hopen
    have hlength : max capacity 1 ≤ r.length := Nat.le_trans hfull h.length_le
    exact (not_writable_of_full (h.turnover.policy.symm.trans hp) hclosed hlength).symm.trans hw

theorem length_of_writable {r : Reader} {capacity : Nat} (hp : r.policy = .suspend capacity)
    (hc : r.closed = false) (hw : r.writable = true) : r.length < max capacity 1 := by
  rw [writable, hp, hc] at hw
  exact of_decide_eq_true hw

theorem push_length_le (r : Reader) (bytes : Bytes) :
    (r.push bytes).1.length ≤ r.length + bytes.length := by
  cases hc : r.closed with
  | true =>
    rw [push_of_closed r bytes hc]
    exact Nat.le_add_right _ _
  | false =>
    have hlength : (r.push bytes).1.length = r.length + (r.kept bytes).length := by
      rw [push_eq bytes hc]
      exact r.signalled.append_length _
    rw [hlength]
    exact Nat.add_le_add_left (r.kept_length_le bytes) _

/-- An open reader that does not drop keeps every byte of a push. -/
theorem push_keeps {r : Reader} (hc : r.closed = false)
    (hne : ∀ capacity, r.policy ≠ .dropNewest capacity) (bytes : Bytes) :
    (r.push bytes).1.content = r.content ++ bytes ∧ (r.push bytes).2.lost = 0 := by
  have hkept : r.kept bytes = bytes := r.kept_whole hne bytes
  have hcontent : (r.push bytes).1.content = r.content ++ r.kept bytes :=
    (push_turnover bytes hc).content
  have hlost := (push_outcome hc bytes).2
  rw [hkept] at hcontent hlost
  exact ⟨hcontent, hlost.trans (Nat.sub_self _)⟩

theorem feed_closed (r : Reader) (chunks : List Bytes) :
    (r.feed chunks).reader.closed = r.closed := by
  induction chunks generalizing r with
  | nil => rfl
  | cons chunk chunks ih => exact (ih (r.push chunk).1).trans (r.push_closed chunk)

/-- An open reader that asks its producer to wait still takes in all that it is given. -/
theorem WellFormed.feed_content {r : Reader} (h : r.WellFormed) {capacity : Nat}
    (hp : r.policy = .suspend capacity) (chunks : List Bytes) :
    (r.feed chunks).reader.content =
      r.content ++ if r.closed then [] else chunks.flatten := by
  have hqueue := (h.swallowed chunks).queue
  cases hc : r.closed with
  | true =>
    rw [ByteQueue.push_of_closed hc] at hqueue
    exact (congrArg ByteQueue.bytes hqueue).trans (List.append_nil _).symm
  | false =>
    have hkeeps : r.queue.keeps r.policy chunks.flatten.length = chunks.flatten.length := by
      rw [hp]
      rfl
    rw [ByteQueue.push_of_open hc, hkeeps, List.take_length] at hqueue
    exact congrArg ByteQueue.bytes hqueue

end Reader

namespace Sandbox

/-- After the start of the child a chunk goes to its reader, unless the sandbox is gone. -/
theorem deliver_data_reader {s : Sandbox} (spawned : s.state ≠ .spawning) (stream : Stream)
    (bytes : Bytes) : (s.deliver (.data stream.fd bytes)).1.reader stream =
      if s.present then ((s.reader stream).push bytes).1 else s.reader stream := by
  cases present : s.present with
  | true =>
    rw [deliver_data present spawned, route_reader]
    rfl
  | false =>
    rw [deliver, present]
    rfl

theorem deliver_data_other {s : Sandbox} (spawned : s.state ≠ .spawning) (stream : Stream)
    (bytes : Bytes) :
    (s.deliver (.data stream.fd bytes)).1.state = s.state ∧
      (s.deliver (.data stream.fd bytes)).1.present = s.present := by
  cases present : s.present with
  | true =>
    rw [deliver_data present spawned]
    exact ⟨route_state s stream bytes, (route_present s stream bytes).trans present⟩
  | false =>
    rw [deliver, present]
    exact ⟨rfl, present⟩

theorem hear_data {s : Sandbox} (spawned : s.state ≠ .spawning) (stream : Stream)
    (chunks : List Bytes) :
    let s' := s.hear (chunks.map (.data stream.fd))
    s'.present = s.present ∧ s'.reader stream =
      if s.present then ((s.reader stream).feed chunks).reader else s.reader stream := by
  induction chunks generalizing s with
  | nil => exact ⟨rfl, (ite_self _).symm⟩
  | cons chunk chunks ih =>
    obtain ⟨hstate, hpresent⟩ := deliver_data_other spawned stream chunk
    obtain ⟨hpresent', hreader⟩ := ih (hstate.symm ▸ spawned)
    refine ⟨hpresent'.trans hpresent, ?_⟩
    rw [List.map_cons, hear_cons, hreader, hpresent, deliver_data_reader spawned]
    cases s.present <;> rfl

theorem deliver_exit_eases (s : Sandbox) (status : Int) (stream : Stream) :
    (s.reader stream).Eases ((s.deliver (.exit status)).1.reader stream) [] := by
  rcases s.deliver_exit_reader status stream with hr | hr
  · rw [hr]
    exact .refl _
  · rw [hr]
    exact (s.reader stream).close_eases

theorem deliver_exit_other {s : Sandbox} (spawned : s.state ≠ .spawning) (status : Int) :
    (s.deliver (.exit status)).1.state ≠ .spawning ∧
      (s.deliver (.exit status)).1.present = s.present := by
  cases present : s.present with
  | false =>
    rw [deliver, present]
    exact ⟨spawned, present⟩
  | true =>
    have happlied := s.applied (.exit status)
    rw [deliver_of_not_spawning present spawned]
    refine ⟨?_, happlied.present.trans present⟩
    rw [happlied.state]
    exact mt Lifecycle.after_eq_spawning.mp spawned

theorem readMax_eases (s : Sandbox) (source : Stream) (max : Option Nat) (stream : Stream) :
    (s.reader stream).Eases ((s.readMax source max).1.reader stream)
      (if source = stream then (s.readMax stream max).2.bytes else []) := by
  split
  · next hs =>
    subst hs
    rw [readMax_reader]
    exact (s.reader source).readMax_eases max
  · next hs =>
    rw [s.readMax_reader_ne max fun h => hs h.symm]
    exact .refl _

/-- A started sandbox whose reader asks its producer to wait, and holds at most one read more than
what leaves room. -/
structure Modest (capacity : Nat) (stream : Stream) (s : Sandbox) : Prop where
  spawned : s.state ≠ .spawning
  policy : (s.reader stream).policy = .suspend capacity
  backlog : (s.reader stream).length ≤ max capacity 1 - 1 + Pump.readSize

theorem Modest.eases {capacity : Nat} {stream : Stream} {s s' : Sandbox} {taken : Bytes}
    (h : s.Modest capacity stream) (spawned : s'.state ≠ .spawning)
    (he : (s.reader stream).Eases (s'.reader stream) taken) : s'.Modest capacity stream :=
  ⟨spawned, he.turnover.policy.trans h.policy, Nat.le_trans he.length_le h.backlog⟩

/-- One read fits in on top of what leaves room. -/
theorem Modest.deliver {capacity : Nat} {stream : Stream} {s : Sandbox}
    (h : s.Modest capacity stream)
    (room : s.present = true → (s.reader stream).writable = true) {chunk : Bytes}
    (hchunk : chunk.length ≤ Pump.readSize) :
    (s.deliver (.data stream.fd chunk)).1.Modest capacity stream := by
  obtain ⟨hstate, -⟩ := deliver_data_other h.spawned stream chunk
  have hreader := deliver_data_reader h.spawned stream chunk
  refine ⟨hstate.symm ▸ h.spawned, ?_, ?_⟩
  · rw [hreader]
    split
    · exact ((s.reader stream).next_policy (.push chunk)).trans h.policy
    · exact h.policy
  · rw [hreader]
    split
    · next present =>
      cases hc : (s.reader stream).closed with
      | true =>
        rw [Reader.push_of_closed _ chunk hc]
        exact h.backlog
      | false =>
        have hroom := Reader.length_of_writable h.policy hc (room present)
        have hpush := (s.reader stream).push_length_le chunk
        omega
    · exact h.backlog

end Sandbox

/-- Unless the policy drops, no fault ever tells of dropped bytes. -/
theorem Stage.no_drops (c : Config) (hne : ∀ capacity, c.outputBuffer ≠ .dropNewest capacity)
    (ms : List Move) (stream : Stream) (count : Nat) :
    .bytesDropped stream.fd count ∉ ((ofConfig c).run ms).sandbox.hub.faults.sent := by
  intro hf
  have hpolicy := (Sandbox.reader_ofConfig c stream).2.2.1
  have hcount := Hub.count_mem_drops hf rfl
  rw [(tells_run c ms).drops, List.mem_filter, List.mem_map] at hcount
  obtain ⟨⟨o, ho, rfl⟩, hpos⟩ := hcount
  have hoffer := ((dealings_run c ms stream).policy o ho).trans hpolicy
  have hkept : o.kept = o.chunk := o.reader.kept_whole (hoffer ▸ hne) o.chunk
  rw [Offer.lost, hkept, Nat.sub_self] at hpos
  exact absurd (of_decide_eq_true hpos) (Nat.lt_irrefl 0)

namespace Pump

/-- A pump that waits for room on its own stream, and reads only if there is some or the sandbox is
gone. -/
structure Patient (stream : Stream) (p : Pump) (s : Sandbox) : Prop where
  fd : p.fd = stream.fd
  draining : p.draining = false
  own : ∀ source n, p.phase = .asleep source n → source = stream
  room : p.phase = .reading → s.present = true → (s.reader stream).writable = true

theorem leaveWait_draining (p : Pump) (stream : Stream) (poll : Poll Unit) :
    (p.leaveWait false stream poll).draining = p.draining := by
  cases poll <;> rfl

theorem gate_draining (p : Pump) (s : Sandbox) :
    (p.gate false s).1.draining = p.draining := by
  rw [gate]
  split
  · split
    · rfl
    · split
      · rfl
      · exact leaveWait_draining p _ _
  · exact leaveWait_draining p _ _
  · rfl
  · rfl

theorem writable_of_leaveWait {p : Pump} {stream : Stream} {r : Reader} {asleep : Option Nat}
    (h : (p.leaveWait false stream (r.pollWritable asleep)).phase = .reading) :
    r.writable = true := by
  rcases pollWritable_cases r asleep with ⟨-, hw⟩ | ⟨hpoll, -⟩
  · exact hw
  · rw [hpoll] at h
    cases h

section Patient

variable {stream : Stream} {p : Pump} {s : Sandbox}

theorem Patient.room_of_gate (h : p.Patient stream s)
    (hr : (p.gate false s).1.phase = .reading) (present : s.present = true) :
    (s.reader stream).writable = true := by
  cases hphase : p.phase with
  | fresh =>
    simp only [gate, hphase, h.draining, present, h.fd, Sandbox.streamOf_fd, Bool.not_true,
      Bool.or_self, Bool.false_eq_true, ↓reduceIte] at hr
    exact writable_of_leaveWait hr
  | asleep source n =>
    simp only [gate, hphase] at hr
    rw [h.own source n hphase] at hr
    exact writable_of_leaveWait hr
  | reading => exact h.room hphase present
  | finished =>
    simp only [gate, hphase] at hr
    cases hr

theorem Patient.gate (h : p.Patient stream s) : (p.gate false s).1.Patient stream s := by
  obtain ⟨-, hgated⟩ := gated h.fd false s
  refine ⟨hgated.goes.fd.trans h.fd, (gate_draining p s).trans h.draining, ?_, h.room_of_gate⟩
  generalize (p.gate false s).1 = p' at hgated
  intro source n hphase
  cases hgated with
  | passed => cases hphase
  | asleep source' notReaped own =>
    cases hphase
    rcases own with ⟨-, hsource⟩ | ⟨n, hasleep⟩
    · exact hsource
    · exact h.own source n hasleep
  | finished => exact h.own source n hphase

/-- A read hands over at most one chunk, and then it has to be waited for room again. -/
theorem Patient.readItem {capacity : Nat} (h : p.Patient stream s) (hs : s.Modest capacity stream)
    (hr : p.phase = .reading) (item : PipeItem) (rest : List PipeItem) :
    (p.readItem item rest s).1.Patient stream (p.readItem item rest s).2 ∧
      (p.readItem item rest s).2.Modest capacity stream := by
  have awake {p' : Pump} {s' : Sandbox} (hfd : p'.fd = p.fd) (hd : p'.draining = p.draining)
      (hphase : p'.phase = .fresh ∨ p'.phase = .finished) : p'.Patient stream s' := by
    refine ⟨hfd.trans h.fd, hd.trans h.draining, fun source n ha => ?_, fun hr => ?_⟩
    · rcases hphase with hp | hp <;> cases hp.symm.trans ha
    · rcases hphase with hp | hp <;> cases hp.symm.trans hr
  cases item with
  | data bytes =>
    cases bytes with
    | nil => exact ⟨awake rfl rfl (.inr rfl), hs⟩
    | cons b bs =>
      have hchunk : ((b :: bs).take readSize).length ≤ readSize := List.length_take_le _ _
      rw [Pump.readItem, handOver_eq stream]
      · rw [Sandbox.hear_cons, Sandbox.hear_nil, h.fd]
        exact ⟨awake h.fd.symm rfl (.inl rfl), hs.deliver (h.room hr) hchunk⟩
      · exact h.fd
      · exact List.cons_ne_nil b bs
  | interrupted => exact ⟨awake rfl rfl (.inl rfl), hs⟩
  | failed => exact ⟨awake rfl rfl (.inr rfl), hs⟩
  | endOfStream => exact ⟨awake rfl rfl (.inr rfl), hs⟩

theorem Patient.turn {capacity : Nat} (h : p.Patient stream s) (hs : s.Modest capacity stream)
    {q : Pump × Sandbox} (ht : p.turn? false s = some q) :
    q.1.Patient stream q.2 ∧ q.2.Modest capacity stream := by
  rw [turn?] at ht
  split at ht
  · next item rest hr hp =>
    cases ht
    rw [gate_eq h.fd false s]
    exact h.gate.readItem hs hr item rest
  · cases ht

theorem Patient.poll {capacity : Nat} (h : p.Patient stream s) (hs : s.Modest capacity stream) :
    (p.poll false s).1.Patient stream (p.poll false s).2 ∧
      (p.poll false s).2.Modest capacity stream := by
  induction p, s using poll.induct false with
  | case1 p s q ht ih =>
    obtain ⟨h', hs'⟩ := h.turn hs ht
    rw [poll_of_turn ht]
    exact ih h' hs'
  | case2 p s ht =>
    rw [poll_of_rest ht, gate_eq h.fd false s]
    exact ⟨h.gate, hs⟩

end Patient

end Pump

namespace Copying

open Pump

/-- The bytes that a step reads from a stream. -/
def taken (stream : Stream) (w : Copying) : Step → Bytes
  | .read source max => w.stage.taken stream (.read source max)
  | _ => []

/-- The chunks that a step hands to a sandbox that is there and has its reader open. -/
def received (stream : Stream) (w : Copying) (t : Step) : List Bytes :=
  if w.sandbox.present && !(w.sandbox.reader stream).closed then w.handed t else []

/-- A pump at work before the reaping. -/
structure Restrained (capacity : Nat) (stream : Stream) (w : Copying) : Prop where
  unreaped : w.reaped = false
  patient : w.pump.Patient stream w.sandbox
  modest : w.sandbox.Modest capacity stream

/-- Only a poll brings anything into a reader. -/
theorem next_eases {w : Copying} (spawned : w.sandbox.state ≠ .spawning) {t : Step}
    (ht : t ≠ .poll) (stream : Stream) :
    (w.next t).sandbox.state ≠ .spawning ∧
      ((w.next t).sandbox.present = true → w.sandbox.present = true) ∧
      (w.sandbox.reader stream).Eases ((w.next t).sandbox.reader stream) (w.taken stream t) := by
  cases t with
  | feed item => exact ⟨spawned, id, .refl _⟩
  | reap => exact ⟨spawned, id, .refl _⟩
  | exit status =>
    obtain ⟨spawned', hpresent⟩ := Sandbox.deliver_exit_other spawned status
    exact ⟨spawned', hpresent.symm.trans, w.sandbox.deliver_exit_eases status stream⟩
  | drop =>
    refine ⟨spawned, fun hp => Bool.noConfusion hp, ?_⟩
    cases stream <;> exact .refl _
  | read source max =>
    obtain ⟨hstate, hpresent, -⟩ := w.sandbox.readMax_other source max
    have he := w.sandbox.readMax_eases source max stream
    exact ⟨hstate.symm ▸ spawned, hpresent.symm.trans, he⟩
  | poll => exact absurd rfl ht

/-- No step but a poll changes a pump, except for what lies in its pipe. -/
theorem next_pump {w : Copying} {t : Step} (ht : t ≠ .poll) :
    (w.next t).pump = { w.pump with pipe := (w.next t).pump.pipe } := by
  cases t with
  | poll => exact absurd rfl ht
  | _ => rfl

theorem next_reaped {w : Copying} {t : Step} (ht : t ≠ .reap) :
    (w.next t).reaped = w.reaped := by
  cases t with
  | reap => exact absurd rfl ht
  | poll =>
    rw [next, step]
    split <;> rfl
  | _ => rfl

theorem Restrained.next {capacity : Nat} {stream : Stream} {w : Copying}
    (h : w.Restrained capacity stream) {t : Step} (ht : t ≠ .reap) :
    (w.next t).Restrained capacity stream := by
  have unreaped := (next_reaped ht).trans h.unreaped
  by_cases hpoll : t = .poll
  · obtain ⟨hpatient, hmodest⟩ := h.patient.poll h.modest
    subst hpoll
    rw [next_poll h.patient.fd, h.unreaped] at unreaped ⊢
    exact ⟨unreaped, hpatient, hmodest⟩
  · obtain ⟨spawned, hpresent, he⟩ := next_eases h.modest.spawned hpoll stream
    refine ⟨unreaped, ?_, h.modest.eases spawned he⟩
    rw [next_pump hpoll]
    exact ⟨h.patient.fd, h.patient.draining, h.patient.own,
      fun hr present => he.writable (h.patient.room hr (hpresent present))⟩

theorem restrained_run {c : Config} {capacity : Nat} (hbuffer : c.outputBuffer = .suspend capacity)
    (stream : Stream) {ts : List Step} (unreaped : .reap ∉ ts) :
    ((ofConfig c stream.fd).run ts).Restrained capacity stream := by
  refine foldl_induction (P := fun ts w => .reap ∉ ts → w.Restrained capacity stream) next
    (ofConfig c stream.fd) ?start ?step ts unreaped
  case start =>
    intro _
    refine ⟨rfl, ⟨rfl, rfl, fun _ _ h => PumpPhase.noConfusion h, fun h => PumpPhase.noConfusion h⟩,
      Lifecycle.noConfusion, ?_, ?_⟩
    · cases stream <;> exact hbuffer
    · cases stream <;> exact Nat.zero_le _
  case step =>
    intro ts t ih ht
    obtain ⟨hts, hlast⟩ := not_or.mp (mt List.mem_append.mpr ht)
    exact (ih hts).next fun h => hlast (List.mem_singleton.mpr h.symm)

section Books

variable {c : Config} {capacity : Nat} (hbuffer : c.outputBuffer = .suspend capacity)
  {stream : Stream} {ts : List Step} {w : Copying} (h : Followed c stream ts w)

include h

theorem Followed.spawned : w.sandbox.state ≠ .spawning :=
  fun hs => Bool.noConfusion (h.consistent.spawning_iff.mp hs)

/-- A poll feeds its chunks to the reader, unless the sandbox is gone. -/
theorem Followed.polled :
    (w.next .poll).sandbox.present = w.sandbox.present ∧
      (w.next .poll).sandbox.reader stream =
        if w.sandbox.present then ((w.sandbox.reader stream).feed (w.handed .poll)).reader
        else w.sandbox.reader stream := by
  have hsandbox : (w.next .poll).sandbox =
      w.sandbox.hear ((w.handed .poll).map (.data stream.fd)) := by
    rw [next_poll h.fd, ← h.fd]
    exact (poll_goes h.fd w.reaped w.sandbox).sandbox
  rw [hsandbox]
  exact Sandbox.hear_data h.spawned stream (w.handed .poll)

/-- A reader never opens again, and a sandbox that was dropped does not come back. -/
theorem Followed.live_of_next (t : Step) (present : (w.next t).sandbox.present = true)
    (opened : ((w.next t).sandbox.reader stream).closed = false) :
    w.sandbox.present = true ∧ (w.sandbox.reader stream).closed = false := by
  by_cases hpoll : t = .poll
  · subst hpoll
    obtain ⟨hpresent, hreader⟩ := h.polled
    rw [hpresent] at present
    rw [hreader, if_pos present, Reader.feed_closed] at opened
    exact ⟨present, opened⟩
  · obtain ⟨-, hpresent, he⟩ := next_eases h.spawned hpoll stream
    refine ⟨hpresent present, ?_⟩
    cases hc : (w.sandbox.reader stream).closed with
    | false => rfl
    | true => exact (he.closed hc).symm.trans opened

include hbuffer

/-- What a step takes out of a reader and leaves in it is what was there and what the step brought. -/
theorem Followed.balance (t : Step) :
    w.taken stream t ++ ((w.next t).sandbox.reader stream).content =
      (w.sandbox.reader stream).content ++ (w.received stream t).flatten := by
  by_cases hpoll : t = .poll
  · subst hpoll
    obtain ⟨hpolicy, hwell, -⟩ := h.reader
    have hfed := hwell.feed_content (hpolicy.trans hbuffer) (w.handed .poll)
    have htaken : w.taken stream .poll = [] := rfl
    rw [htaken, List.nil_append, h.polled.2, received]
    cases w.sandbox.present with
    | false => exact (List.append_nil _).symm
    | true =>
      rw [if_pos rfl, hfed]
      cases (w.sandbox.reader stream).closed <;> rfl
  · obtain ⟨-, -, he⟩ := next_eases h.spawned hpoll stream
    have hhanded : w.handed t = [] := by
      cases t with
      | poll => exact absurd rfl hpoll
      | _ => rfl
    rw [received, hhanded, ite_self]
    exact he.turnover.content

end Books

/-- What was read from a stream and what it holds is what its reader received. -/
theorem balance_run {c : Config} {capacity : Nat} (hbuffer : c.outputBuffer = .suspend capacity)
    (stream : Stream) (ts : List Step) :
    let start := ofConfig c stream.fd
    start.gather (taken stream) ts ++ ((start.run ts).sandbox.reader stream).content =
      (start.gather (received stream) ts).flatten := by
  intro start
  refine foldl_induction (P := fun ts w => start.gather (taken stream) ts ++
    (w.sandbox.reader stream).content = (start.gather (received stream) ts).flatten) next start
    ?start ?step ts
  case start => cases stream <;> rfl
  case step =>
    intro ts t ih
    have hstep := (followed_run c stream ts).balance hbuffer t
    rw [gather_concat, gather_concat, List.flatten_append, ← ih, List.append_assoc,
      List.append_assoc]
    exact congrArg _ hstep

/-- As long as the sandbox is there and its reader open, all that is handed over is received. -/
theorem received_run (c : Config) (stream : Stream) (ts : List Step) :
    let start := ofConfig c stream.fd
    (start.run ts).sandbox.present = true →
      ((start.run ts).sandbox.reader stream).closed = false →
        start.gather (received stream) ts = start.gather handed ts := by
  intro start
  refine foldl_induction (P := fun ts w => w.sandbox.present = true →
    (w.sandbox.reader stream).closed = false →
      start.gather (received stream) ts = start.gather handed ts) next start ?start ?step ts
  case start =>
    intro _ _
    rfl
  case step =>
    intro ts t ih present opened
    obtain ⟨present, opened⟩ := (followed_run c stream ts).live_of_next t present opened
    have hreceived : (start.run ts).received stream t = (start.run ts).handed t := by
      rw [received, present, opened]
      rfl
    rw [gather_concat, gather_concat, ih present opened, hreceived]

/-- Backpressure bounds the backlog. Before the child is reaped the buffer of a stream that asks its
producer to wait never exceeds its capacity by a full read, whatever is fed, read and polled and
whenever the child exits or the sandbox is dropped. No byte is dropped while the reader is open: it
keeps each push whole, and what was read and what is buffered is all that the pump handed over as
long as there was an open reader to take it. -/
theorem backlog_bounded (c : Config) {capacity : Nat}
    (hbuffer : c.outputBuffer = .suspend capacity) (stream : Stream) {ts : List Step}
    (unreaped : .reap ∉ ts) :
    let start := ofConfig c stream.fd
    let w := start.run ts
    let r := w.sandbox.reader stream
    r.length ≤ max capacity 1 - 1 + 8192 ∧
    (r.closed = false → ∀ bytes,
      (r.push bytes).1.content = r.content ++ bytes ∧ (r.push bytes).2.lost = 0) ∧
    (r.dropped = 0 ∧ ∀ count, .bytesDropped stream.fd count ∉ w.sandbox.hub.faults.sent) ∧
    start.gather (taken stream) ts ++ r.content = (start.gather (received stream) ts).flatten ∧
    (w.sandbox.present = true → r.closed = false →
      start.gather (received stream) ts = start.gather handed ts) := by
  intro start w r
  have hfollowed : Followed c stream ts w := followed_run c stream ts
  obtain ⟨hpolicy, -, hdropped⟩ := hfollowed.reader
  have hne (n : Nat) : c.outputBuffer ≠ .dropNewest n := by
    rw [hbuffer]
    exact BufferPolicy.noConfusion
  refine ⟨?bound, fun opened => ?push, ⟨hdropped hne, fun count => ?fault⟩,
    balance_run hbuffer stream ts, received_run c stream ts⟩
  case bound => exact (restrained_run hbuffer stream unreaped).modest.backlog
  case push => exact Reader.push_keeps opened (hpolicy.symm ▸ hne)
  case fault =>
    have hcourse : w.sandbox = _ := congrArg Stage.sandbox hfollowed.course
    rw [hcourse]
    exact Stage.no_drops c hne _ stream count

/-- The bound is met: with two bytes in a reader for three the pump still goes on, and takes in a
full read. -/
theorem backlog_bounded_filled :
    let c : Config := { outputBuffer := .suspend 3 }
    let ts : List Step := [.feed (.data [1, 2, 3, 4]), .feed .interrupted, .poll,
      .feed (.data (List.replicate 8200 0)), .read .stdout (some 2), .poll, .poll]
    let start := ofConfig c Stream.stdout.fd
    let r := (start.run ts).sandbox.reader .stdout
    .reap ∉ ts ∧ r.length = 3 - 1 + 8192 ∧ r.dropped = 0 ∧
      [1, 2] ++ r.content = (start.gather handed ts).flatten := by
  intro c ts start r
  have unreaped : .reap ∉ ts := by decide
  obtain ⟨hfull, htaken, present, opened⟩ : r.length = 3 - 1 + 8192 ∧
      start.gather (taken .stdout) ts = [1, 2] ∧ (start.run ts).sandbox.present = true ∧
      r.closed = false := by decide +kernel
  obtain ⟨-, -, ⟨hdropped, -⟩, hbalance, hreceived⟩ := backlog_bounded c rfl .stdout unreaped
  rw [hreceived present opened, htaken] at hbalance
  exact ⟨unreaped, hfull, hdropped, hbalance⟩

end Copying

end Confine
