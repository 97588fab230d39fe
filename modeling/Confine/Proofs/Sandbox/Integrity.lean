import Confine.Proofs.Sandbox.Story
import Mathlib.Algebra.GroupWithZero.Nat

/-!
The books of both output streams over a whole course. Every chunk that is reported before the end is
offered once, in its order, to the reader of its descriptor; what the reader keeps of it is read or
still buffered, and the rest is counted.
-/

namespace Confine

open EngineEvent

namespace Lifecycle

/-- The chunks that a reader must have been offered by the time of a state: those reported before
the first end, but none during the engine's spawn call or after its failure. -/
def due (stream : Stream) (past : List EngineEvent) : Lifecycle → List Bytes
  | spawning => []
  | terminated .spawnFailed => []
  | _ => chunks stream (beforeEnding past)

theorem due_after (stream : Stream) (past : List EngineEvent) :
    (running.after past).due stream past = running.tells (chunk? stream) past := by
  have htells : running.tells (chunk? stream) past = chunks stream (beforeEnding past) :=
    chunks_heeded stream past
  rw [htells]
  cases h : firstEnding past with
  | none =>
    rw [after_of_no_ending h]
    rfl
  | some t =>
    simp only [after, h]
    cases t with
    | exited code => rfl
    | signaled number => rfl
    | spawnFailed => exact absurd h (firstEnding_ne_spawnFailed past)

end Lifecycle

/-- A chunk together with the open reader that it met. -/
structure Offer where
  reader : Reader
  chunk : Bytes

namespace Offer

/-- The part of the chunk that the reader kept. -/
def kept (o : Offer) : Bytes := o.reader.kept o.chunk

/-- The number of bytes that the reader dropped. -/
def lost (o : Offer) : Nat := o.chunk.length - o.kept.length

theorem lost_add_kept (offers : List Offer) :
    (offers.map lost).sum + (offers.map kept).flatten.length =
      (offers.map chunk).flatten.length := by
  induction offers with
  | nil => rfl
  | cons o offers ih =>
    have hle : o.kept.length ≤ o.chunk.length := o.reader.kept_length_le o.chunk
    have hlost : o.lost + o.kept.length = o.chunk.length := Nat.sub_add_cancel hle
    simp only [List.map_cons, List.sum_cons, List.flatten_cons, List.length_append]
    omega

/-- Nothing is lost unless the policy drops. -/
theorem kept_all {offers : List Offer}
    (h : ∀ o ∈ offers, ∀ capacity, o.reader.policy ≠ .dropNewest capacity) :
    offers.map kept = offers.map chunk :=
  List.map_congr_left fun o ho => o.reader.kept_whole (h o ho) o.chunk

end Offer

/-- The books of a reader for some reads and some offers: what the offers left is what turned over,
and each of them met the reader in a sound condition. -/
structure Reader.Dealings (r r' : Reader) (taken : Bytes) (offers : List Offer) : Prop where
  turnover : r.Turnover r' taken (offers.map Offer.kept).flatten (offers.map Offer.lost).sum
  policy : ∀ o ∈ offers, o.reader.policy = r.policy
  wellFormed : r.WellFormed → ∀ o ∈ offers, o.reader.WellFormed

namespace Reader

theorem Dealings.of_turnover {r r' : Reader} {taken : Bytes} (h : r.Turnover r' taken [] 0) :
    r.Dealings r' taken [] :=
  ⟨h, fun _ ho => absurd ho List.not_mem_nil, fun _ _ ho => absurd ho List.not_mem_nil⟩

theorem Dealings.refl (r : Reader) : r.Dealings r [] [] := .of_turnover (.refl r)

theorem Dealings.trans {r₁ r₂ r₃ : Reader} {taken taken' : Bytes} {offers offers' : List Offer}
    (h : r₁.Dealings r₂ taken offers) (h' : r₂.Dealings r₃ taken' offers') :
    r₁.Dealings r₃ (taken ++ taken') (offers ++ offers') where
  turnover := by
    rw [List.map_append, List.flatten_append, List.map_append, List.sum_append]
    exact h.turnover.trans h'.turnover
  policy o ho := by
    rcases List.mem_append.mp ho with ho | ho
    · exact h.policy o ho
    · exact (h'.policy o ho).trans h.turnover.policy
  wellFormed hw o ho := by
    rcases List.mem_append.mp ho with ho | ho
    · exact h.wellFormed hw o ho
    · exact h'.wellFormed (h.turnover.wellFormed hw) o ho

/-- A reader that drops nothing takes in the chunks whole. -/
theorem Dealings.whole {r r' : Reader} {taken : Bytes} {offers : List Offer}
    (h : r.Dealings r' taken offers) (hne : ∀ capacity, r.policy ≠ .dropNewest capacity) :
    taken ++ r'.content = r.content ++ (offers.map Offer.chunk).flatten ∧
      r'.dropped = r.dropped := by
  have hkept : offers.map Offer.kept = offers.map Offer.chunk :=
    Offer.kept_all fun o ho => (h.policy o ho).symm ▸ hne
  have hlost := Offer.lost_add_kept offers
  rw [hkept] at hlost
  refine ⟨by rw [h.turnover.content, hkept], ?_⟩
  rw [h.turnover.dropped]
  omega

/-- A chunk pushed into an open reader is one offer. -/
theorem push_dealings {r : Reader} (bytes : Bytes) (h : r.closed = false) :
    r.Dealings (r.push bytes).1 [] [⟨r, bytes⟩] where
  turnover := by
    have ht := push_turnover bytes h
    simpa only [List.map_cons, List.map_nil, List.flatten_singleton, List.sum_singleton,
      Offer.kept, Offer.lost] using ht
  policy o ho := by rw [List.mem_singleton.mp ho]
  wellFormed hw o ho := by
    rw [List.mem_singleton.mp ho]
    exact hw

end Reader

namespace Sandbox

theorem reader_ofConfig (c : Config) (stream : Stream) :
    ((ofConfig c).reader stream).content = [] ∧ ((ofConfig c).reader stream).dropped = 0 ∧
      ((ofConfig c).reader stream).policy = c.outputBuffer ∧
      ((ofConfig c).reader stream).WellFormed := by
  cases stream <;>
    exact ⟨rfl, rfl, rfl, rfl, fun _ h => absurd h List.not_mem_nil, fun _ _ => Nat.zero_le _⟩

/-- What an event offers to a reader. -/
def offer? (s : Sandbox) (stream : Stream) (e : EngineEvent) : Option Offer :=
  match e.chunk? stream with
  | some chunk => if (s.reader stream).closed then none else some ⟨s.reader stream, chunk⟩
  | none => none

/-- What events offer to a reader when they are applied one after the other. -/
def offers (stream : Stream) (s : Sandbox) : List EngineEvent → List Offer
  | [] => []
  | e :: es => (s.offer? stream e).toList ++ (s.apply e).1.offers stream es

theorem offer?_of_no_chunk (s : Sandbox) {stream : Stream} {e : EngineEvent}
    (h : e.chunk? stream = none) : s.offer? stream e = none := by
  simp only [offer?, h]

theorem offer?_data (s : Sandbox) (stream : Stream) (bytes : Bytes) :
    s.offer? stream (.data stream.fd bytes) =
      if (s.reader stream).closed then none else some ⟨s.reader stream, bytes⟩ := by
  simp only [offer?, chunk?, ↓reduceIte]

theorem offer?_data_ne (s : Sandbox) {stream source : Stream} (bytes : Bytes)
    (h : stream ≠ source) : s.offer? stream (.data source.fd bytes) = none := by
  refine s.offer?_of_no_chunk (if_neg fun hfd => h ?_)
  exact (Option.some.inj ((Stream.ofFd?_fd source).symm.trans (hfd ▸ Stream.ofFd?_fd stream))).symm

theorem Applied.dealings {s : Sandbox} {e : EngineEvent} {p : Sandbox × Except SandboxError Bool}
    (h : s.Applied e p) (stream : Stream) :
    (s.reader stream).Dealings (p.1.reader stream) [] (s.offer? stream e).toList := by
  cases h with
  | unknown fd bytes hu =>
    have hk : (EngineEvent.data fd bytes).known = false := decide_eq_false hu
    rw [s.offer?_of_no_chunk (chunk?_of_unknown hk stream)]
    rw [← (s.alike_report (.unknownDescriptor fd)).reader stream]
    exact .refl _
  | routed source bytes =>
    by_cases hs : stream = source
    · subst hs
      rw [offer?_data, route_reader]
      cases hc : (s.reader stream).closed with
      | true =>
        rw [Reader.push_of_closed _ _ hc]
        exact .refl _
      | false => exact Reader.push_dealings bytes hc
    · rw [s.offer?_data_ne bytes hs, s.route_reader_ne source bytes hs]
      exact .refl _
  | ended _ t event ht =>
    rw [s.offer?_of_no_chunk (chunk?_of_ending ht stream)]
    cases stream <;> exact .of_turnover (Reader.close_turnover _)
  | late _ t ht =>
    rw [s.offer?_of_no_chunk (chunk?_of_ending ht stream)]
    exact .refl _
  | announced path =>
    cases stream <;> exact .refl _
  | ignored path => exact .refl _

theorem replay_dealings (s : Sandbox) (stream : Stream) (es : List EngineEvent) :
    (s.reader stream).Dealings ((s.replay es).reader stream) [] (s.offers stream es) := by
  induction es generalizing s with
  | nil => exact .refl _
  | cons e es ih => exact ((s.applied e).dealings stream).trans (ih (s.apply e).1)

theorem Linked.offer?_chunk {s : Sandbox} (h : s.Linked) (hi : s.state ≠ .idle)
    (hs : s.state ≠ .spawning) (stream : Stream) (e : EngineEvent) :
    (s.offer? stream e).toList.map Offer.chunk = s.state.tells (chunk? stream) [e] := by
  have hclosed := h.closed stream
  cases hstate : s.state with
  | idle => exact absurd hstate hi
  | spawning => exact absurd hstate hs
  | running =>
    rw [hstate] at hclosed
    rw [Lifecycle.tells_one]
    cases hc : e.chunk? stream with
    | none =>
      rw [s.offer?_of_no_chunk hc]
      rfl
    | some chunk =>
      simp only [offer?, hc, hclosed, Lifecycle.isTerminated, Bool.false_eq_true, ↓reduceIte]
      rfl
  | terminated t =>
    rw [hstate] at hclosed
    cases hc : e.chunk? stream with
    | none =>
      rw [s.offer?_of_no_chunk hc]
      rfl
    | some chunk =>
      simp only [offer?, hc, hclosed, Lifecycle.isTerminated, ↓reduceIte]
      rfl

/-- Until the end every chunk of a running child is offered, and nothing is after it. -/
theorem Linked.offers_chunk {s : Sandbox} (h : s.Linked) (hi : s.state ≠ .idle)
    (hs : s.state ≠ .spawning) (stream : Stream) (es : List EngineEvent) :
    (s.offers stream es).map Offer.chunk = s.state.tells (chunk? stream) es := by
  induction es generalizing s with
  | nil => exact (Lifecycle.tells_nil _).symm
  | cons e es ih =>
    have hstate := (s.applied e).state
    have hi' : (s.apply e).1.state ≠ .idle := by
      rw [hstate, ne_eq, Lifecycle.after_eq_idle]
      exact hi
    have hs' : (s.apply e).1.state ≠ .spawning := by
      rw [hstate, ne_eq, Lifecycle.after_eq_spawning]
      exact hs
    rw [offers, List.map_append, h.offer?_chunk hi hs, ih ((s.applied e).linked h) hi' hs', hstate,
      ← Lifecycle.tells_cons]

end Sandbox

namespace Stage

/-- What a move offers to a reader. -/
def offers (stream : Stream) (w : Stage) (m : Move) : List Offer :=
  (w.applies m).1.offers stream (w.applies m).2

theorem offers_of_applies_nil {w : Stage} {m : Move} (h : (w.applies m).2 = []) (stream : Stream) :
    w.offers stream m = [] := by
  rw [offers, h]
  rfl

theorem offers_report_of_spawning (w : Stage) (spawning : w.sandbox.state = .spawning)
    (e : EngineEvent) (stream : Stream) : w.offers stream (.report e) = [] := by
  refine offers_of_applies_nil ?_ stream
  simp only [applies, spawning, ne_eq, not_true_eq_false, decide_false, Bool.and_false,
    Bool.false_eq_true, ↓reduceIte]

theorem offers_report (w : Stage) (sink : w.hasSink = true) (present : w.sandbox.present = true)
    (state : w.sandbox.state ≠ .spawning) (e : EngineEvent) (stream : Stream) :
    w.offers stream (.report e) = w.sandbox.offers stream [e] := by
  simp only [offers, applies, sink, present, state, ne_eq, not_false_eq_true, decide_true,
    Bool.and_self, ↓reduceIte]

theorem offers_spawnReturns (w : Stage) (call : w.inCall = true) (stream : Stream) :
    w.offers stream (.spawnReturns (.ok ())) =
      w.sandbox.started.offers stream w.sandbox.pending := by
  simp only [offers, applies, call, ↓reduceIte]

theorem Turn.dealings {w w' : Stage} {m : Move} (ht : w.Turn m w') (stream : Stream) :
    (w.sandbox.reader stream).Dealings (w'.sandbox.reader stream) (w.taken stream m)
      (w.offers stream m) := by
  cases ht with
  | quiet m s alike heard taken applies =>
    rw [alike.reader, taken stream, offers_of_applies_nil applies]
    exact .refl _
  | begun options => cases stream <;> exact .refl _
  | postponed e sink present spawning =>
    rw [w.offers_report_of_spawning spawning]
    cases stream <;> exact .refl _
  | refused fd bytes sink present spawning =>
    rw [w.offers_report_of_spawning spawning]
    cases stream <;> exact .refl _
  | applied e sink present state =>
    rw [w.offers_report sink present state]
    exact w.sandbox.replay_dealings stream [e]
  | started call =>
    rw [w.offers_spawnReturns call]
    -- The start itself leaves the readers alone; every offer comes from the replay.
    have hsame : w.sandbox.started.reader stream = w.sandbox.reader stream := by
      cases stream <;> rfl
    rw [← hsame]
    exact w.sandbox.started.replay_dealings stream w.sandbox.pending
  | failed e => cases stream <;> exact .of_turnover (Reader.close_turnover _)
  | took source max =>
    by_cases hs : source = stream
    · subst hs
      rw [Sandbox.readMax_reader]
      have ht := (w.sandbox.reader source).readMax_turnover max
      simp only [taken, ↓reduceIte]
      exact .of_turnover ht
    · rw [w.sandbox.readMax_reader_ne max (fun h => hs h.symm)]
      simp only [taken, hs, ↓reduceIte]
      exact .refl _
  | dropped => cases stream <;> exact .refl _

/-- The books of a reader balance over every course. -/
theorem dealings_run (c : Config) (ms : List Move) (stream : Stream) :
    ((Sandbox.ofConfig c).reader stream).Dealings (((ofConfig c).run ms).sandbox.reader stream)
      ((ofConfig c).gather (taken stream) ms) ((ofConfig c).gather (offers stream) ms) := by
  refine run_induction (P := fun ms w => ((Sandbox.ofConfig c).reader stream).Dealings
    (w.sandbox.reader stream) ((ofConfig c).gather (taken stream) ms)
    ((ofConfig c).gather (offers stream) ms)) (ofConfig c) (.refl _) (fun ms m h => ?_) ms
  rw [gather_concat, gather_concat]
  exact h.trans ((turn _ m).dealings stream)

/-- What a move offers is what becomes due with it. -/
theorem Turn.due {w w' : Stage} {m : Move} {past : List EngineEvent} (h : w.Consistent)
    (hp : w.sandbox.Phase past) (ht : w.Turn m w') (stream : Stream) :
    w'.sandbox.state.due stream (past ++ w.heard m) =
      w.sandbox.state.due stream past ++ (w.offers stream m).map Offer.chunk := by
  have still {m : Move} (hm : w.heard m = []) (ho : w.offers stream m = []) :
      w.sandbox.state.due stream (past ++ w.heard m) =
        w.sandbox.state.due stream past ++ (w.offers stream m).map Offer.chunk := by
    rw [hm, ho, List.append_nil, List.map_nil, List.append_nil]
  cases ht with
  | quiet m s alike heard taken applies =>
    rw [alike.state]
    exact still heard (offers_of_applies_nil applies stream)
  | begun options present idle =>
    rw [idle, (hp.of_idle idle).1]
    rfl
  | postponed e sink present spawning =>
    rw [w.offers_report_of_spawning spawning, spawning]
    rfl
  | refused fd bytes sink present spawning =>
    rw [w.offers_report_of_spawning spawning, Sandbox.report, spawning]
    rfl
  | applied e sink present state =>
    have hidle := h.sink_iff.mp sink
    rw [w.heard_report sink present, w.offers_report sink present state,
      h.linked.offers_chunk hidle state, Sandbox.replay_state]
    cases hp with
    | idle hs => exact absurd hs hidle
    | spawning hs => exact absurd hs state
    | failed hs =>
      rw [hs]
      rfl
    | live hs =>
      rw [hs, ← Lifecycle.after_append, Lifecycle.due_after, Lifecycle.due_after,
        Lifecycle.tells_append]
  | started call =>
    have hs := h.spawning_iff.mpr call
    have hqueued := (hp.of_spawning hs).1
    have hstate : (w.sandbox.started.replay w.sandbox.pending).state =
        Lifecycle.running.after past := by
      rw [Sandbox.replay_state, hqueued, Lifecycle.after_filter_known]
      rfl
    have hoffers : (w.sandbox.started.offers stream w.sandbox.pending).map Offer.chunk =
        Lifecycle.running.tells (chunk? stream) past := by
      rw [(h.linked.started hs).offers_chunk Lifecycle.noConfusion Lifecycle.noConfusion, hqueued,
        Lifecycle.tells_filter_known fun _ he => chunk?_of_unknown he stream]
      rfl
    have hheard : w.heard (.spawnReturns (.ok ())) = [] := rfl
    rw [w.offers_spawnReturns call, hoffers, hstate, hs, hheard, List.append_nil,
      Lifecycle.due_after]
    rfl
  | failed e call =>
    rw [h.spawning_iff.mpr call]
    rfl
  | took source max =>
    rw [(w.sandbox.readMax_other source max).1]
    exact still rfl rfl
  | dropped => exact still rfl rfl

/-- Every chunk that is due was offered, once and in its order. -/
theorem offered_run (c : Config) (ms : List Move) (stream : Stream) :
    ((ofConfig c).gather (offers stream) ms).map Offer.chunk =
      ((ofConfig c).run ms).sandbox.state.due stream ((ofConfig c).gather heard ms) := by
  refine run_induction (P := fun ms w => ((ofConfig c).gather (offers stream) ms).map Offer.chunk =
    w.sandbox.state.due stream ((ofConfig c).gather heard ms)) (ofConfig c) rfl
    (fun ms m h => ?_) ms
  rw [gather_concat, gather_concat, List.map_append, h]
  exact ((turn _ m).due (consistent_run c ms) (phase_run c ms) stream).symm

/-- No byte is lost, doubled or moved. Of the chunks on a stream that were reported before the first
end, in their order, what reads took and what is buffered is everything, or under a dropping policy
the part of each chunk that fitted when it was applied; the bytes left out are counted. -/
theorem bytes_intact (c : Config) (ms : List Move) (stream : Stream) :
    let w := (ofConfig c).run ms
    let r := w.sandbox.reader stream
    let taken := (ofConfig c).gather (taken stream) ms
    let offers := (ofConfig c).gather (offers stream) ms
    let due := w.sandbox.state.due stream ((ofConfig c).gather heard ms)
    offers.map Offer.chunk = due ∧
    r.length = r.content.length ∧
    match c.outputBuffer with
    | .unbounded => taken ++ r.content = due.flatten ∧ r.dropped = 0
    | .suspend _ => taken ++ r.content = due.flatten ∧ r.dropped = 0
    | .dropNewest capacity =>
      taken ++ r.content =
        (offers.map fun o => o.chunk.take (capacity - o.reader.content.length)).flatten ∧
      r.length ≤ capacity ∧
      r.dropped + (taken ++ r.content).length = due.flatten.length := by
  intro w r taken offers due
  have hbooks : ((Sandbox.ofConfig c).reader stream).Dealings r taken offers :=
    dealings_run c ms stream
  have hdue : offers.map Offer.chunk = due := offered_run c ms stream
  obtain ⟨hempty, hzero, hpolicy, hfresh⟩ := Sandbox.reader_ofConfig c stream
  have hr : r.WellFormed := hbooks.turnover.wellFormed hfresh
  have hcontent : taken ++ r.content = (offers.map Offer.kept).flatten := by
    rw [hbooks.turnover.content, hempty, List.nil_append]
  have hdropped : r.dropped = (offers.map Offer.lost).sum := by
    rw [hbooks.turnover.dropped, hzero, Nat.zero_add]
  have hsum : r.dropped + (taken ++ r.content).length = due.flatten.length := by
    rw [hdropped, hcontent, Offer.lost_add_kept, hdue]
  have hoffer (o : Offer) (ho : o ∈ offers) : o.reader.policy = c.outputBuffer :=
    (hbooks.policy o ho).trans hpolicy
  have hwhole (hne : ∀ capacity, c.outputBuffer ≠ .dropNewest capacity) :
      taken ++ r.content = due.flatten ∧ r.dropped = 0 := by
    have hkept : taken ++ r.content = due.flatten := by
      rw [hcontent, Offer.kept_all (fun o ho => (hoffer o ho).symm ▸ hne), hdue]
    rw [hkept] at hsum
    exact ⟨hkept, by omega⟩
  refine ⟨hdue, hr.length_eq, ?_⟩
  cases hbuffer : c.outputBuffer with
  | unbounded => exact hwhole fun capacity h => BufferPolicy.noConfusion (hbuffer.symm.trans h)
  | suspend n => exact hwhole fun capacity h => BufferPolicy.noConfusion (hbuffer.symm.trans h)
  | dropNewest capacity =>
    have hpart (o : Offer) (ho : o ∈ offers) :
        o.kept = o.chunk.take (capacity - o.reader.content.length) := by
      rw [← (hbooks.wellFormed hfresh o ho).length_eq]
      simp only [Offer.kept, Reader.kept, (hoffer o ho).trans hbuffer, Reader.room]
    have hmost : r.length ≤ capacity :=
      hr.bounded capacity (hbooks.turnover.policy.trans (hpolicy.trans hbuffer))
    exact ⟨hcontent.trans (congrArg List.flatten (List.map_congr_left hpart)), hmost, hsum⟩

end Stage

end Confine
