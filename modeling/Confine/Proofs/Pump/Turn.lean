import Confine.Proofs.Pump.Pipe
import Confine.Proofs.Sandbox.Integrity

/-!
What one poll of a pump does. A poll is a row of turns, each of which reads one item of the pipe. It
comes to rest in a wait for room, in a read of an empty pipe, or at the end.
-/

namespace Confine

namespace Sandbox

/-- The sandbox after its engine has reported some events. -/
def hear (s : Sandbox) (es : List EngineEvent) : Sandbox :=
  es.foldl (fun s e => (s.deliver e).1) s

theorem hear_nil (s : Sandbox) : s.hear [] = s := rfl

theorem hear_cons (s : Sandbox) (e : EngineEvent) (es : List EngineEvent) :
    s.hear (e :: es) = (s.deliver e).1.hear es := rfl

theorem hear_append (s : Sandbox) (es es' : List EngineEvent) :
    s.hear (es ++ es') = (s.hear es).hear es' := List.foldl_append

/-- Data on a descriptor that has a reader is taken in without an error. -/
theorem deliver_data_ok (s : Sandbox) (stream : Stream) (bytes : Bytes) :
    ∃ ready, (s.deliver (.data stream.fd bytes)).2 = .ok ready := by
  rw [deliver]
  split
  · exact ⟨_, rfl⟩
  · split
    · simp only [postpone, Stream.ofFd?_fd]
      exact ⟨_, rfl⟩
    · simp only [apply, streamOf_fd]
      exact ⟨_, rfl⟩

end Sandbox

namespace Pump

/-- The chunk that the next read of a pipe yields, if it yields any. -/
def chunk? (p : Pump) : Option Bytes :=
  match p.pipe with
  | .data (b :: bs) :: _ => some ((b :: bs).take readSize)
  | _ => none

/-- The chunks that a poll hands to the sink. -/
def handed (p : Pump) (reaped : Bool) (s : Sandbox) : List Bytes :=
  match _h : p.turn? reaped s with
  | some q => p.chunk?.toList ++ q.1.handed reaped q.2
  | none => []
termination_by weight p.pipe
decreasing_by exact turn?_weight _h

section Poll

variable {p : Pump} {reaped : Bool} {s : Sandbox}

theorem poll_of_turn {q : Pump × Sandbox} (h : p.turn? reaped s = some q) :
    p.poll reaped s = q.1.poll reaped q.2 := by
  rw [poll]
  split
  · next h' =>
    rw [h] at h'
    cases h'
    rfl
  · next h' =>
    rw [h] at h'
    cases h'

theorem poll_of_rest (h : p.turn? reaped s = none) : p.poll reaped s = p.gate reaped s := by
  rw [poll]
  split
  · next h' =>
    rw [h] at h'
    cases h'
  · rfl

theorem handed_of_turn {q : Pump × Sandbox} (h : p.turn? reaped s = some q) :
    p.handed reaped s = p.chunk?.toList ++ q.1.handed reaped q.2 := by
  rw [handed]
  split
  · next h' =>
    rw [h] at h'
    cases h'
    rfl
  · next h' =>
    rw [h] at h'
    cases h'

theorem handed_of_rest (h : p.turn? reaped s = none) : p.handed reaped s = [] := by
  rw [handed]
  split
  · next h' =>
    rw [h] at h'
    cases h'
  · rfl

end Poll

/-- Everything that the wait at the start of a turn can come to. -/
inductive Gated (p : Pump) (reaped : Bool) (stream : Stream) (s : Sandbox) : Pump → Prop
  | passed (draining : Bool) (h : p.phase ≠ .finished) :
      Gated p reaped stream s { p with phase := .reading, draining }
  | asleep (source : Stream) (notReaped : reaped = false)
      (own : p.phase = .fresh ∧ source = stream ∨ ∃ n, p.phase = .asleep source n)
      (full : p.phase = .asleep source (s.reader source).drains ∨
        (s.reader source).writable = false) :
      Gated p reaped stream s { p with phase := .asleep source (s.reader source).drains }
  | finished (h : p.phase = .finished) : Gated p reaped stream s p

/-- A polled wait is over with room, or it goes on because nothing has changed or there is none. -/
theorem pollWritable_cases (r : Reader) (asleep : Option Nat) :
    r.pollWritable asleep = .ready () ∧ r.writable = true ∨
      r.pollWritable asleep = .asleep r.drains ∧
        (asleep = some r.drains ∨ r.writable = false) := by
  rw [Reader.pollWritable]
  split
  · next h => exact .inr ⟨rfl, .inl h⟩
  · split
    · next h => exact .inl ⟨rfl, h⟩
    · next h => exact .inr ⟨rfl, .inr (by simpa using h)⟩

theorem gated_leaveWait (p : Pump) (reaped : Bool) (stream source : Stream) (s : Sandbox)
    (asleep : Option Nat)
    (own : p.phase = .fresh ∧ source = stream ∨ ∃ n, p.phase = .asleep source n)
    (since : ∀ n, asleep = some n → p.phase = .asleep source n) :
    p.Gated reaped stream s
      (p.leaveWait reaped source ((s.reader source).pollWritable asleep)) := by
  have unfinished : p.phase ≠ .finished := by
    rcases own with ⟨h, -⟩ | ⟨n, h⟩ <;> rw [h] <;> exact PumpPhase.noConfusion
  rcases pollWritable_cases (s.reader source) asleep with ⟨h, -⟩ | ⟨h, hfull⟩
  · rw [h]
    exact .passed p.draining unfinished
  · rw [h, leaveWait]
    cases hr : reaped with
    | true => exact .passed true unfinished
    | false =>
      have full : p.phase = .asleep source (s.reader source).drains ∨
          (s.reader source).writable = false := hfull.imp_left (since _)
      exact .asleep source rfl own full

/-- For a descriptor that has a reader, the wait at the start of a turn leaves the sandbox alone. -/
theorem gated {p : Pump} {stream : Stream} (hfd : p.fd = stream.fd) (reaped : Bool) (s : Sandbox) :
    (p.gate reaped s).2 = s ∧ p.Gated reaped stream s (p.gate reaped s).1 := by
  cases hphase : p.phase with
  | fresh =>
    have unfinished : p.phase ≠ .finished := by rw [hphase]; exact PumpPhase.noConfusion
    simp only [gate, hphase]
    split
    · exact ⟨rfl, .passed p.draining unfinished⟩
    · simp only [hfd, Sandbox.streamOf_fd]
      exact ⟨trivial, gated_leaveWait p reaped stream stream s none (.inl ⟨hphase, rfl⟩)
        fun _ h => absurd h.symm (Option.some_ne_none _)⟩
  | asleep source n =>
    simp only [gate, hphase]
    refine ⟨trivial, gated_leaveWait p reaped stream source s (some n) (.inr ⟨n, hphase⟩) ?_⟩
    intro m h
    cases h
    exact hphase
  | reading =>
    have unfinished : p.phase ≠ .finished := by rw [hphase]; exact PumpPhase.noConfusion
    have hsame : p = { p with phase := .reading, draining := p.draining } := by rw [← hphase]
    simp only [gate, hphase]
    refine ⟨trivial, ?_⟩
    have hpassed : p.Gated reaped stream s { p with phase := .reading, draining := p.draining } :=
      .passed p.draining unfinished
    rw [← hsame] at hpassed
    exact hpassed
  | finished =>
    simp only [gate, hphase]
    exact ⟨trivial, .finished hphase⟩

theorem gate_eq {p : Pump} {stream : Stream} (hfd : p.fd = stream.fd) (reaped : Bool)
    (s : Sandbox) : p.gate reaped s = ((p.gate reaped s).1, s) :=
  Prod.ext rfl (gated hfd reaped s).1

/-- The sandbox refuses no chunk on a descriptor that has a reader. -/
theorem handOver_eq (stream : Stream) {p : Pump} (hfd : p.fd = stream.fd) (chunk : Bytes)
    (s : Sandbox) :
    p.handOver chunk s = ({ p with phase := .fresh }, s.hear [.data p.fd chunk]) := by
  obtain ⟨ready, hready⟩ := s.deliver_data_ok stream chunk
  rw [handOver, Sandbox.hear_cons, Sandbox.hear_nil, hfd]
  generalize s.deliver (.data stream.fd chunk) = result at hready
  obtain ⟨s', answer⟩ := result
  cases hready
  rfl

/-- Everything that a turn can come to: the end, a retry, or a chunk handed over. -/
inductive Turned (p : Pump) (s : Sandbox) : Pump × Sandbox → Prop
  | ended (item : PipeItem) (rest : List PipeItem) (draining : Bool) (hp : p.pipe = item :: rest)
      (he : item.ends = true) :
      Turned p s ({ p with pipe := rest, phase := .finished, draining }, s)
  | retried (rest : List PipeItem) (draining : Bool) (hp : p.pipe = .interrupted :: rest) :
      Turned p s ({ p with pipe := rest, phase := .fresh, draining }, s)
  | copied (bytes : Bytes) (rest : List PipeItem) (draining : Bool)
      (hp : p.pipe = .data bytes :: rest) (hne : bytes ≠ []) :
      Turned p s ({ p with
        pipe := if bytes.drop readSize = [] then rest else .data (bytes.drop readSize) :: rest
        phase := .fresh, draining }, s.hear [.data p.fd (bytes.take readSize)])

theorem turned {p : Pump} {stream : Stream} (hfd : p.fd = stream.fd) {reaped : Bool} {s : Sandbox}
    {q : Pump × Sandbox} (h : p.turn? reaped s = some q) : p.phase ≠ .finished ∧ p.Turned s q := by
  obtain ⟨hsandbox, hgated⟩ := gated hfd reaped s
  generalize hgate : p.gate reaped s = g at hsandbox hgated
  obtain ⟨p', s'⟩ := g
  simp only at hsandbox hgated
  subst hsandbox
  simp only [turn?, hgate] at h
  cases hgated with
  | passed draining unfinished =>
    refine ⟨unfinished, ?_⟩
    cases hp : p.pipe with
    | nil =>
      simp only [hp] at h
      cases h
    | cons item rest =>
      simp only [hp] at h
      cases h
      cases item with
      | data bytes =>
        cases bytes with
        | nil => exact .ended (.data []) rest draining hp rfl
        | cons b bs =>
          have hcopied := Turned.copied (p := p) (s := s') (b :: bs) rest draining hp
            (List.cons_ne_nil b bs)
          rw [readItem, handOver_eq stream]
          · exact hcopied
          · exact hfd
          · exact List.cons_ne_nil b bs
      | interrupted => exact .retried rest draining hp
      | failed => exact .ended .failed rest draining hp rfl
      | endOfStream => exact .ended .endOfStream rest draining hp rfl
  | asleep => cases h
  | finished hf =>
    simp only [hf] at h
    cases h

theorem poll_of_finished {p : Pump} {stream : Stream} (hfd : p.fd = stream.fd)
    (hf : p.phase = .finished) (reaped : Bool) (s : Sandbox) : p.poll reaped s = (p, s) := by
  have hrest : p.turn? reaped s = none := by
    cases ht : p.turn? reaped s with
    | none => rfl
    | some q => exact absurd hf (turned hfd ht).1
  rw [poll_of_rest hrest]
  simp only [gate, hf]

/-- A pump goes on and hands some chunks to the sandbox: what is still due gets less by them, and
what lies behind the end is left alone. -/
structure Goes (p : Pump) (s : Sandbox) (chunks : List Bytes) (q : Pump × Sandbox) : Prop where
  fd : q.1.fd = p.fd
  sandbox : q.2 = s.hear (chunks.map (.data p.fd))
  due : chunks ++ q.1.due = p.due
  beyond : q.1.beyond? = p.beyond?
  stays : p.phase = .finished → q.1.phase = .finished

theorem Goes.trans {p : Pump} {s : Sandbox} {chunks chunks' : List Bytes} {q r : Pump × Sandbox}
    (h : p.Goes s chunks q) (h' : q.1.Goes q.2 chunks' r) : p.Goes s (chunks ++ chunks') r where
  fd := h'.fd.trans h.fd
  sandbox := by rw [h'.sandbox, h.sandbox, h.fd, List.map_append, Sandbox.hear_append]
  due := by rw [List.append_assoc, h'.due, h.due]
  beyond := h'.beyond.trans h.beyond
  stays hf := h'.stays (h.stays hf)

/-- A pump that goes on without a read hands nothing over. -/
theorem Goes.of_unread {p p' : Pump} {s : Sandbox} (hfd : p'.fd = p.fd) (hpipe : p'.pipe = p.pipe)
    (hp : p.phase ≠ .finished) (hp' : p'.phase ≠ .finished) : p.Goes s [] (p', s) where
  fd := hfd
  sandbox := rfl
  due := by rw [List.nil_append, due_of_not_finished hp', due_of_not_finished hp, hpipe]
  beyond := by rw [beyond?_of_not_finished hp', beyond?_of_not_finished hp, hpipe]
  stays hf := absurd hf hp

theorem Gated.goes {p p' : Pump} {reaped : Bool} {stream : Stream} {s : Sandbox}
    (h : p.Gated reaped stream s p') : p.Goes s [] (p', s) := by
  cases h with
  | passed draining unfinished =>
    exact .of_unread rfl rfl unfinished PumpPhase.noConfusion
  | asleep source notReaped own full =>
    refine .of_unread rfl rfl ?_ PumpPhase.noConfusion
    rcases own with ⟨h, -⟩ | ⟨n, h⟩ <;> rw [h] <;> exact PumpPhase.noConfusion
  | finished => exact ⟨rfl, rfl, rfl, rfl, id⟩

theorem Turned.goes {p : Pump} {s : Sandbox} {q : Pump × Sandbox} (h : p.Turned s q)
    (unfinished : p.phase ≠ .finished) : p.Goes s p.chunk?.toList q := by
  have hdue := due_of_not_finished unfinished
  have hbeyond := beyond?_of_not_finished unfinished
  cases h with
  | ended item rest draining hp he =>
    have hchunk : p.chunk? = none := by
      simp only [chunk?, hp]
      cases item with
      | data bytes =>
        cases bytes with
        | nil => rfl
        | cons => exact absurd he Bool.noConfusion
      | _ => rfl
    rw [hchunk]
    refine ⟨rfl, rfl, ?_, ?_, fun hf => absurd hf unfinished⟩
    · rw [hdue, hp, chunks_cons_of_ends he, due_of_finished rfl]
      rfl
    · rw [hbeyond, hp, pastEnd?_cons_of_ends he, beyond?_of_finished rfl]
  | retried rest draining hp =>
    have hchunk : p.chunk? = none := by simp only [chunk?, hp]
    have hends : PipeItem.interrupted.ends = false := rfl
    rw [hchunk]
    refine ⟨rfl, rfl, ?_, ?_, fun hf => absurd hf unfinished⟩
    · rw [hdue, hp, chunks_cons hends, due_of_not_finished PumpPhase.noConfusion]
      exact (congrArg (· ++ chunks rest) cut_nil).symm
    · rw [hbeyond, hp, pastEnd?_cons hends, beyond?_of_not_finished PumpPhase.noConfusion]
  | copied bytes rest draining hp hne =>
    have hchunk : p.chunk? = some (bytes.take readSize) := by
      obtain ⟨b, bs, rfl⟩ := List.exists_cons_of_ne_nil hne
      simp only [chunk?, hp]
    have hends := ends_data hne
    rw [hchunk]
    refine ⟨rfl, rfl, ?_, ?_, fun hf => absurd hf unfinished⟩
    · rw [hdue, hp, chunks_cons hends, due_of_not_finished PumpPhase.noConfusion, chunks_left,
        ← List.append_assoc]
      exact congrArg (· ++ chunks rest) (cut_of_ne_nil hne).symm
    · rw [hbeyond, hp, pastEnd?_cons hends, beyond?_of_not_finished PumpPhase.noConfusion,
        pastEnd?_left]

/-- A poll hands over some of the chunks that are due, in their order, and does nothing else to the
sandbox. -/
theorem poll_goes {p : Pump} {stream : Stream} (hfd : p.fd = stream.fd) (reaped : Bool)
    (s : Sandbox) : p.Goes s (p.handed reaped s) (p.poll reaped s) := by
  -- By the turns of the poll: each takes from what is due just what it hands over.
  induction p, s using poll.induct reaped with
  | case1 p s q h ih =>
    obtain ⟨unfinished, hturned⟩ := turned hfd h
    have hgoes := hturned.goes unfinished
    rw [poll_of_turn h, handed_of_turn h]
    exact hgoes.trans (ih (hgoes.fd.trans hfd))
  | case2 p s h =>
    rw [poll_of_rest h, handed_of_rest h, gate_eq hfd reaped s]
    exact (gated hfd reaped s).2.goes

/-- If a pump sleeps, it does so for room on its own stream, and there has been none since its last
look. -/
def Settled (p : Pump) (stream : Stream) (r : Reader) : Prop :=
  ∀ source n, p.phase = .asleep source n →
    source = stream ∧ n ≤ r.drains ∧ (n = r.drains → r.writable = false)

theorem settled_of_awake {p : Pump} (h : ∀ source n, p.phase ≠ .asleep source n) (stream : Stream)
    (r : Reader) : p.Settled stream r := fun source n hp => absurd hp (h source n)

theorem Turned.settled {p : Pump} {s : Sandbox} {q : Pump × Sandbox} (h : p.Turned s q)
    (stream : Stream) (r : Reader) : q.1.Settled stream r := by
  apply settled_of_awake
  intro source n
  cases h <;> exact PumpPhase.noConfusion

theorem Gated.pipe {p p' : Pump} {reaped : Bool} {stream : Stream} {s : Sandbox}
    (h : p.Gated reaped stream s p') : p'.pipe = p.pipe := by
  cases h <;> rfl

/-- A pump that has passed its wait and cannot go on has nothing to read. -/
theorem pipe_of_rest {p : Pump} {reaped : Bool} {s : Sandbox} (h : p.turn? reaped s = none)
    (hr : (p.gate reaped s).1.phase = .reading) : p.pipe = [] := by
  cases hp : p.pipe with
  | nil => rfl
  | cons item rest =>
    simp only [turn?, hr, hp] at h
    cases h

/-- A poll that ends in a read has emptied the pipe. -/
theorem pipe_of_poll_reading {p : Pump} {stream : Stream} (hfd : p.fd = stream.fd) {reaped : Bool}
    {s : Sandbox} (hr : (p.poll reaped s).1.phase = .reading) : (p.poll reaped s).1.pipe = [] := by
  induction p, s using poll.induct reaped with
  | case1 p s q h ih =>
    obtain ⟨unfinished, hturned⟩ := turned hfd h
    rw [poll_of_turn h] at hr ⊢
    exact ih ((hturned.goes unfinished).fd.trans hfd) hr
  | case2 p s h =>
    rw [poll_of_rest h] at hr ⊢
    exact (gated hfd reaped s).2.pipe.trans (pipe_of_rest h hr)

/-- After the reaping a poll ends with the copying or with an empty pipe. -/
theorem poll_drains {p : Pump} {stream : Stream} (hfd : p.fd = stream.fd) (s : Sandbox) :
    (p.poll true s).1.phase = .finished ∨ (p.poll true s).1.pipe = [] := by
  induction p, s using poll.induct true with
  | case1 p s q h ih =>
    obtain ⟨unfinished, hturned⟩ := turned hfd h
    rw [poll_of_turn h]
    exact ih ((hturned.goes unfinished).fd.trans hfd)
  | case2 p s h =>
    have hrest := pipe_of_rest h
    have hgated := (gated hfd true s).2
    rw [poll_of_rest h]
    generalize (p.gate true s).1 = p' at hgated hrest
    cases hgated with
    | passed draining unfinished => exact .inr (hrest rfl)
    | asleep source notReaped => cases notReaped
    | finished hf => exact .inl hf

/-- After the reaping a poll hands over all that is due, and finishes just if there is an end. -/
theorem poll_reaped {p : Pump} {stream : Stream} (hfd : p.fd = stream.fd)
    (unfinished : p.phase ≠ .finished) (s : Sandbox) :
    p.handed true s = chunks p.pipe ∧
    match pastEnd? p.pipe with
    | some rest => (p.poll true s).1.phase = .finished ∧ (p.poll true s).1.pipe = rest
    | none => (p.poll true s).1.phase ≠ .finished ∧ (p.poll true s).1.pipe = [] := by
  have hgoes := poll_goes hfd true s
  have hdue := hgoes.due
  have hbeyond := hgoes.beyond
  have hrest := poll_drains hfd s
  generalize p.poll true s = q at hdue hbeyond hrest ⊢
  rw [due_of_not_finished unfinished] at hdue
  rw [beyond?_of_not_finished unfinished] at hbeyond
  by_cases hf : q.1.phase = .finished
  · rw [due_of_finished hf, List.append_nil] at hdue
    rw [← hbeyond, beyond?_of_finished hf]
    exact ⟨hdue, hf, rfl⟩
  · have hpipe := hrest.resolve_left hf
    rw [due_of_not_finished hf, hpipe, chunks_nil, List.append_nil] at hdue
    rw [← hbeyond, beyond?_of_not_finished hf, hpipe]
    exact ⟨hdue, hf, rfl⟩

/-- A poll ends with the copying, in a read of an empty pipe, or asleep before the reaping for want
of room. -/
theorem poll_rests {p : Pump} {stream : Stream} (hfd : p.fd = stream.fd) (reaped : Bool)
    {s : Sandbox} (hs : p.Settled stream (s.reader stream)) :
    let q := p.poll reaped s
    q.1.Settled stream (q.2.reader stream) ∧ (q.1.phase = .finished ∨ q.1.pipe = [] ∨
      reaped = false ∧ (q.2.reader stream).writable = false) := by
  induction p, s using poll.induct reaped with
  | case1 p s q h ih =>
    obtain ⟨unfinished, hturned⟩ := turned hfd h
    rw [poll_of_turn h]
    exact ih ((hturned.goes unfinished).fd.trans hfd) (hturned.settled stream _)
  | case2 p s h =>
    obtain ⟨-, hgated⟩ := gated hfd reaped s
    have hrest := pipe_of_rest h
    rw [poll_of_rest h, gate_eq hfd reaped s]
    generalize (p.gate reaped s).1 = p' at hgated hrest ⊢
    cases hgated with
    | passed draining unfinished =>
      exact ⟨settled_of_awake (fun _ _ => PumpPhase.noConfusion) _ _, .inr (.inl (hrest rfl))⟩
    | asleep source notReaped own full =>
      -- A wait that goes on was settled before; one that is new has just looked for room.
      have hown : source = stream := by
        rcases own with ⟨-, hsource⟩ | ⟨n, hphase⟩
        · exact hsource
        · exact (hs source n hphase).1
      subst hown
      have hfull : (s.reader source).writable = false := by
        rcases full with hphase | hfull
        · exact (hs source _ hphase).2.2 rfl
        · exact hfull
      refine ⟨?_, .inr (.inr ⟨notReaped, hfull⟩)⟩
      intro source' n hphase
      cases hphase
      exact ⟨rfl, Nat.le_refl _, fun _ => hfull⟩
    | finished hf =>
      exact ⟨settled_of_awake (fun _ _ ha => PumpPhase.noConfusion (hf.symm.trans ha)) _ _,
        .inl hf⟩

end Pump

end Confine
