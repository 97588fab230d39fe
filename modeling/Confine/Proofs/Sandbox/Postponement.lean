import Confine.Proofs.Sandbox.Consistency

/-!
Events reported during the engine's spawn call come to the same as events reported right after it.
The queue drops only data on descriptors without a reader, and such data leaves nothing behind but a
fault.
-/

namespace Confine

open EngineEvent

/-- Sorting a list into two parts keeps the order within each part. -/
theorem filter_parts (p : α → Bool) (l : List α) :
    (l.filter p ++ l.filter fun a => !p a).filter p = l.filter p ∧
      (l.filter p ++ l.filter fun a => !p a).filter (fun a => !p a) = l.filter fun a => !p a := by
  simp only [List.filter_append, List.filter_filter]
  constructor <;> simp

namespace EngineFault

/-- Whether a fault is about a descriptor without a reader. -/
def isStray : EngineFault → Bool
  | unknownDescriptor _ => true
  | bytesDropped _ _ => false

end EngineFault

/-- The fault of data on a descriptor without a reader. -/
def EngineEvent.stray? : EngineEvent → Option EngineFault
  | .data fd _ => if fd = 1 ∨ fd = 2 then none else some (.unknownDescriptor fd)
  | _ => none

theorem EngineEvent.isStray_of_stray? {e : EngineEvent} {fault : EngineFault}
    (h : e.stray? = some fault) : fault.isStray = true := by
  cases e with
  | data fd bytes =>
    simp only [stray?] at h
    split at h
    · cases h
    · cases h
      rfl
  | _ => cases h

namespace Sandbox

/-- The sandbox with another record of faults. -/
def withFaults (s : Sandbox) (faults : List EngineFault) : Sandbox :=
  { s with hub := { s.hub with faults := { s.hub.faults with sent := faults } } }

theorem withFaults_withFaults (s : Sandbox) (faults faults' : List EngineFault) :
    (s.withFaults faults).withFaults faults' = s.withFaults faults' := rfl

theorem withFaults_reader (s : Sandbox) (faults : List EngineFault) (stream : Stream) :
    (s.withFaults faults).reader stream = s.reader stream := by
  cases stream <;> rfl

/-- The faults that follow an event. -/
def faultsOf (s : Sandbox) : EngineEvent → List EngineFault
  | .data fd bytes =>
    match Stream.ofFd? fd with
    | none => [.unknownDescriptor fd]
    | some stream => ((s.reader stream).push bytes).2.faults stream
  | _ => []

/-- The faults that follow events when they are applied one after the other. -/
def replayFaults (s : Sandbox) : List EngineEvent → List EngineFault
  | [] => []
  | e :: es => s.faultsOf e ++ (s.apply e).1.replayFaults es

theorem faultsOf_withFaults (s : Sandbox) (faults : List EngineFault) (e : EngineEvent) :
    (s.withFaults faults).faultsOf e = s.faultsOf e := by
  cases e with
  | data fd bytes =>
    simp only [faultsOf]
    split
    · rfl
    · rw [withFaults_reader]
  | _ => rfl

theorem route_withFaults (s : Sandbox) (faults : List EngineFault) (stream : Stream)
    (bytes : Bytes) : ((s.withFaults faults).route stream bytes).1 =
      (s.route stream bytes).1.withFaults
        (faults ++ ((s.reader stream).push bytes).2.faults stream) := by
  rw [route_eq, route_eq, withFaults_reader]
  cases stream <;> rfl

theorem terminate_withFaults (s : Sandbox) (faults : List EngineFault) (t : Termination) :
    (s.withFaults faults).terminate t = (s.terminate t).withFaults faults := by
  have hstate : (s.withFaults faults).state = s.state := rfl
  rw [terminate, terminate, hstate]
  cases s.state with
  | running => cases t <;> rfl
  | _ => rfl

/-- The faults on record do not matter to an event, and it only adds to them. -/
theorem apply_withFaults (s : Sandbox) (faults : List EngineFault) (e : EngineEvent) :
    ((s.withFaults faults).apply e).1 = (s.apply e).1.withFaults (faults ++ s.faultsOf e) := by
  cases e with
  | data fd bytes =>
    cases hf : Stream.ofFd? fd with
    | none =>
      simp only [apply, streamOf, hf, faultsOf]
      rfl
    | some stream =>
      simp only [apply, streamOf, hf, faultsOf]
      exact s.route_withFaults faults stream bytes
  | exit status =>
    simp only [apply, faultsOf, List.append_nil]
    exact s.terminate_withFaults faults _
  | signal number =>
    simp only [apply, faultsOf, List.append_nil]
    exact s.terminate_withFaults faults _
  | newSocket path =>
    simp only [apply, faultsOf, List.append_nil]
    have hstate : (s.withFaults faults).state = s.state := rfl
    rw [hstate]
    split <;> rfl

theorem replayFaults_withFaults (s : Sandbox) (faults : List EngineFault)
    (es : List EngineEvent) : (s.withFaults faults).replayFaults es = s.replayFaults es := by
  induction es generalizing s faults with
  | nil => rfl
  | cons e es ih => rw [replayFaults, replayFaults, faultsOf_withFaults, apply_withFaults, ih]

theorem replay_withFaults (s : Sandbox) (faults : List EngineFault) (es : List EngineEvent) :
    (s.withFaults faults).replay es = (s.replay es).withFaults (faults ++ s.replayFaults es) := by
  induction es generalizing s faults with
  | nil => rw [replay_nil, replay_nil, replayFaults, List.append_nil]
  | cons e es ih =>
    rw [replay_cons, replay_cons, apply_withFaults, ih, replayFaults, List.append_assoc]

theorem replay_faults (s : Sandbox) (es : List EngineEvent) :
    (s.replay es).hub.faults.sent = s.hub.faults.sent ++ s.replayFaults es :=
  congrArg (fun s => s.hub.faults.sent) (s.replay_withFaults s.hub.faults.sent es)

theorem apply_of_unknown (s : Sandbox) {e : EngineEvent} (h : e.known = false) :
    ∃ fault, e.stray? = some fault ∧ s.faultsOf e = [fault] ∧
      (s.apply e).1 = s.withFaults (s.hub.faults.sent ++ [fault]) := by
  cases e with
  | data fd bytes =>
    have hfd : ¬(fd = 1 ∨ fd = 2) := of_decide_eq_false h
    have hf := Stream.ofFd?_eq_none.mpr hfd
    refine ⟨.unknownDescriptor fd, if_neg hfd, ?_, ?_⟩
    · simp only [faultsOf, hf]
    · simp only [apply, streamOf, hf]
      rfl
  | _ => exact absurd h Bool.noConfusion

/-- A known event leaves no fault about its descriptor. -/
theorem faultsOf_of_known (s : Sandbox) {e : EngineEvent} (h : e.known = true) :
    e.stray? = none ∧ ∀ fault ∈ s.faultsOf e, fault.isStray = false := by
  cases e with
  | data fd bytes =>
    have hfd : fd = 1 ∨ fd = 2 := of_decide_eq_true h
    refine ⟨if_pos hfd, fun fault hfault => ?_⟩
    simp only [faultsOf] at hfault
    split at hfault
    · next hf => exact absurd hfd (Stream.ofFd?_eq_none.mp hf)
    · next stream hf =>
      generalize ((s.reader stream).push bytes).2 = outcome at hfault
      cases outcome with
      | truncated accepted dropped =>
        rw [List.mem_singleton.mp hfault]
        rfl
      | _ => exact absurd hfault List.not_mem_nil
  | _ => exact ⟨rfl, fun fault hfault => absurd hfault List.not_mem_nil⟩

/-- Apart from the faults, events without a reader make no difference. -/
theorem replay_filter_known (s : Sandbox) (es : List EngineEvent) (faults : List EngineFault) :
    (s.replay (es.filter known)).withFaults faults = (s.replay es).withFaults faults := by
  induction es generalizing s with
  | nil => rfl
  | cons e es ih =>
    cases hk : e.known with
    | true => rw [List.filter_cons_of_pos hk, replay_cons, replay_cons, ih]
    | false =>
      -- The event only adds to the faults, and those are overwritten on both sides.
      obtain ⟨fault, -, -, happly⟩ := s.apply_of_unknown hk
      rw [List.filter_cons_of_neg (by rw [hk]; exact Bool.noConfusion), ih, replay_cons, happly,
        replay_withFaults, withFaults_withFaults]

theorem replayFaults_stray (s : Sandbox) (es : List EngineEvent) :
    (s.replayFaults es).filter EngineFault.isStray = es.filterMap stray? := by
  induction es generalizing s with
  | nil => rfl
  | cons e es ih =>
    rw [replayFaults, List.filter_append, ih]
    cases hk : e.known with
    | true =>
      obtain ⟨hstray, hfaults⟩ := s.faultsOf_of_known hk
      rw [List.filterMap_cons_none hstray, List.filter_eq_nil_iff.mpr, List.nil_append]
      intro fault hfault
      rw [hfaults fault hfault]
      exact Bool.noConfusion
    | false =>
      obtain ⟨fault, hstray, hfaults, -⟩ := s.apply_of_unknown hk
      rw [List.filterMap_cons_some hstray, hfaults,
        List.filter_cons_of_pos (isStray_of_stray? hstray)]
      rfl

theorem replayFaults_dropped (s : Sandbox) (es : List EngineEvent) :
    (s.replayFaults es).filter (fun fault => !fault.isStray) =
      s.replayFaults (es.filter known) := by
  induction es generalizing s with
  | nil => rfl
  | cons e es ih =>
    rw [replayFaults, List.filter_append, ih]
    cases hk : e.known with
    | true =>
      obtain ⟨hstray, hfaults⟩ := s.faultsOf_of_known hk
      rw [List.filter_cons_of_pos hk, replayFaults, List.filter_eq_self.mpr]
      intro fault hfault
      rw [hfaults fault hfault]
      rfl
    | false =>
      obtain ⟨fault, hstray, hfaults, happly⟩ := s.apply_of_unknown hk
      have hnone : [fault].filter (fun fault => !fault.isStray) = [] := by
        simp only [List.filter_cons, isStray_of_stray? hstray, Bool.not_true, Bool.false_eq_true,
          ↓reduceIte, List.filter_nil]
      rw [List.filter_cons_of_neg (by rw [hk]; exact Bool.noConfusion), hfaults, happly,
        replayFaults_withFaults, hnone]
      rfl

/-- The sandbox after events in the engine's spawn call. -/
def queued (s : Sandbox) (es : List EngineEvent) : Sandbox :=
  { s with pending := s.pending ++ es.filter known }.withFaults
    (s.hub.faults.sent ++ es.filterMap stray?)

/-- At the end of the call only the faults tell the queue from events reported later. -/
theorem queued_replay (s : Sandbox) (hp : s.pending = []) (es : List EngineEvent) :
    (s.queued es).started.replay (s.queued es).pending =
      (s.started.replay es).withFaults (s.hub.faults.sent ++ es.filterMap stray? ++
        s.started.replayFaults (es.filter known)) := by
  have hstarted : (s.queued es).started =
      s.started.withFaults (s.hub.faults.sent ++ es.filterMap stray?) := rfl
  have hpending : (s.queued es).pending = es.filter known := by
    simp only [queued, withFaults, hp, List.nil_append]
  rw [hstarted, hpending, replay_withFaults, replay_filter_known]

theorem deliver_of_spawning {s : Sandbox} (present : s.present = true)
    (spawning : s.state = .spawning) (e : EngineEvent) : (s.deliver e).1 = s.queued [e] := by
  have hdeliver : s.deliver e = s.postpone e := by
    simp only [deliver, present, spawning, Bool.not_true, Bool.false_eq_true, ↓reduceIte]
  rw [hdeliver, queued]
  cases hk : e.known with
  | true =>
    rw [s.postpone_of_known hk, List.filter_cons_of_pos hk,
      List.filterMap_cons_none (s.faultsOf_of_known hk).1]
    simp only [List.filter_nil, List.filterMap_nil, List.append_nil]
    rfl
  | false =>
    cases e with
    | data fd bytes =>
      have hfd : ¬(fd = 1 ∨ fd = 2) := of_decide_eq_false hk
      have hstray : (EngineEvent.data fd bytes).stray? = some (.unknownDescriptor fd) := if_neg hfd
      rw [s.postpone_of_unknown bytes hfd, List.filterMap_cons_some hstray,
        List.filter_cons_of_neg (by rw [hk]; exact Bool.noConfusion)]
      simp only [List.filter_nil, List.filterMap_nil, List.append_nil]
      rfl
    | _ => exact absurd hk Bool.noConfusion

theorem deliver_of_not_spawning {s : Sandbox} (present : s.present = true)
    (state : s.state ≠ .spawning) (e : EngineEvent) : s.deliver e = s.apply e := by
  simp only [deliver, present, state, Bool.not_true, Bool.false_eq_true, ↓reduceIte]

theorem queued_queued (s : Sandbox) (es es' : List EngineEvent) :
    (s.queued es).queued es' = s.queued (es ++ es') := by
  simp only [queued, withFaults, List.filter_append, List.filterMap_append, List.append_assoc]

theorem deliver_error {s : Sandbox} (present : s.present = true) (e : EngineEvent)
    (error : SandboxError) : (s.deliver e).2 = .error error ↔
      ∃ fd bytes, e = .data fd bytes ∧ ¬(fd = 1 ∨ fd = 2) ∧ error = .unknownDescriptor fd := by
  have hdeliver : s.deliver e = if s.state = .spawning then s.postpone e else s.apply e := by
    simp only [deliver, present, Bool.not_true, Bool.false_eq_true, ↓reduceIte]
  cases hk : e.known with
  | true =>
    have hok : ∃ answer, (s.deliver e).2 = .ok answer := by
      rw [hdeliver]
      split
      · exact ⟨true, congrArg Prod.snd (s.postpone_of_known hk)⟩
      · exact (s.applied e).ok_of_known hk
    obtain ⟨answer, hok⟩ := hok
    rw [hok]
    constructor
    · intro h
      cases h
    · rintro ⟨fd, bytes, rfl, hfd, -⟩
      exact absurd (of_decide_eq_true hk) hfd
  | false =>
    cases e with
    | data fd bytes =>
      have hfd : ¬(fd = 1 ∨ fd = 2) := of_decide_eq_false hk
      have herror : (s.deliver (.data fd bytes)).2 = .error (.unknownDescriptor fd) := by
        rw [hdeliver]
        split
        · exact congrArg Prod.snd (s.postpone_of_unknown bytes hfd)
        · simp only [apply, streamOf, Stream.ofFd?_eq_none.mpr hfd]
      rw [herror]
      constructor
      · intro h
        cases h
        exact ⟨fd, bytes, rfl, hfd, rfl⟩
      · rintro ⟨fd', bytes', he, -, rfl⟩
        cases he
        rfl
    | _ => exact absurd hk Bool.noConfusion

end Sandbox

namespace Stage

theorem answer_report {w : Stage} (sink : w.hasSink = true) (e : EngineEvent) :
    w.answer (.report e) = .result ((w.sandbox.deliver e).2.map .flag) := by
  simp only [answer, act, sink, Bool.not_true, Bool.false_eq_true, ↓reduceIte]

/-- An event is refused for its descriptor alone. -/
theorem answer_report_error {w : Stage} (sink : w.hasSink = true)
    (present : w.sandbox.present = true) (e : EngineEvent) (error : SandboxError) :
    w.answer (.report e) = .result (.error error) ↔
      ∃ fd bytes, e = .data fd bytes ∧ ¬(fd = 1 ∨ fd = 2) ∧ error = .unknownDescriptor fd := by
  rw [answer_report sink, ← Sandbox.deliver_error present]
  cases (w.sandbox.deliver e).2 <;> simp [Except.map]

theorem run_reports_spawning (w : Stage) (sink : w.hasSink = true)
    (present : w.sandbox.present = true) (spawning : w.sandbox.state = .spawning)
    (es : List EngineEvent) :
    w.run (es.map .report) = { w with sandbox := w.sandbox.queued es } := by
  induction es generalizing w with
  | nil =>
    simp only [Sandbox.queued, List.filter_nil, List.filterMap_nil, List.append_nil]
    rfl
  | cons e es ih =>
    have hnext : w.next (.report e) = { w with sandbox := w.sandbox.queued [e] } := by
      rw [next_report sink, Sandbox.deliver_of_spawning present spawning]
    have hrest := ih { w with sandbox := w.sandbox.queued [e] } sink present spawning
    rw [List.map_cons, run_cons, hnext, hrest, Sandbox.queued_queued]
    rfl

theorem run_reports (w : Stage) (sink : w.hasSink = true) (present : w.sandbox.present = true)
    (state : w.sandbox.state ≠ .spawning) (es : List EngineEvent) :
    w.run (es.map .report) = { w with sandbox := w.sandbox.replay es } := by
  induction es generalizing w with
  | nil => rfl
  | cons e es ih =>
    have happlied := w.sandbox.applied e
    have hnext : w.next (.report e) = { w with sandbox := (w.sandbox.apply e).1 } := by
      rw [next_report sink, Sandbox.deliver_of_not_spawning present state]
    have hstate : (w.sandbox.apply e).1.state ≠ .spawning := by
      rw [happlied.state, ne_eq, Lifecycle.after_eq_spawning]
      exact state
    have hrest := ih { w with sandbox := (w.sandbox.apply e).1 } sink
      (happlied.present.trans present) hstate
    rw [List.map_cons, run_cons, hnext, hrest]
    rfl

/-- Events from inside the engine's spawn call come to the same as events right after it. Only the
order between faults of different kinds can differ. -/
theorem postponed_alike (c : Config) (options : SpawnOptions) (es : List EngineEvent) :
    let begun := (ofConfig c).next (.spawn options)
    let called (es : List EngineEvent) := begun.run (es.map .report)
    let back := begun.next (.spawnReturns (.ok ()))
    let a := ((called es).next (.spawnReturns (.ok ()))).sandbox
    let b := (back.run (es.map .report)).sandbox
    let opened := (called es).sandbox.started
    (a.state = b.state ∧ (∀ stream, a.reader stream = b.reader stream) ∧
      a.engineHeld = b.engineHeld) ∧
    (a.hub.lifecycle = b.hub.lifecycle ∧ a.hub.started = b.hub.started ∧
      a.hub.exit = b.hub.exit ∧ a.hub.signal = b.hub.signal ∧
      a.hub.newSocket = b.hub.newSocket ∧ a.hub.data = b.hub.data) ∧
    (∀ before e after error, es = before ++ e :: after →
      ((called before).answer (.report e) = .result (.error error) ↔
        ∃ fd bytes, e = .data fd bytes ∧ ¬(fd = 1 ∨ fd = 2) ∧ error = .unknownDescriptor fd) ∧
      ((back.run (before.map .report)).answer (.report e) = .result (.error error) ↔
        ∃ fd bytes, e = .data fd bytes ∧ ¬(fd = 1 ∨ fd = 2) ∧ error = .unknownDescriptor fd)) ∧
    (a.hub.faults.sent.Perm b.hub.faults.sent ∧
      a.hub.faults.sent.filter EngineFault.isStray = b.hub.faults.sent.filter EngineFault.isStray ∧
      a.hub.faults.sent.filter (fun fault => !fault.isStray) =
        b.hub.faults.sent.filter (fun fault => !fault.isStray)) ∧
    (∀ before after, es = before ++ after →
      (called before).sandbox.hub.lifecycle.sent = [] ∧
      (called before).sandbox.hub.data.sent = []) ∧
    (opened.hub.lifecycle.sent = [.started] ∧ opened.hub.data.sent = [] ∧
      a = opened.replay (called es).sandbox.pending ∧
      ∀ before after, (called es).sandbox.pending = before ++ after →
        (opened.replay before).hub.lifecycle.sent.head? = some .started) := by
  intro begun called back a b opened
  let s := (Sandbox.ofConfig c).begun
  have hcalled (es : List EngineEvent) :
      called es = { sandbox := s.queued es, hasSink := true, inCall := true } :=
    run_reports_spawning begun rfl rfl rfl es
  have hback : back = { sandbox := s.started, hasSink := true, inCall := false } := rfl
  have hlate (es : List EngineEvent) : back.run (es.map .report) =
      { sandbox := s.started.replay es, hasSink := true, inCall := false } :=
    run_reports back rfl rfl Lifecycle.noConfusion es
  have hopened : opened = (s.queued es).started :=
    congrArg (fun w => w.sandbox.started) (hcalled es)
  have hb : b = s.started.replay es := congrArg Stage.sandbox (hlate es)
  have hreplay : a = (s.queued es).started.replay (s.queued es).pending :=
    congrArg (fun w => (w.next (.spawnReturns (.ok ()))).sandbox) (hcalled es)
  have ha : a = b.withFaults (b.hub.faults.sent.filter EngineFault.isStray ++
      b.hub.faults.sent.filter (fun fault => !fault.isStray)) := by
    have hfaults : b.hub.faults.sent = s.started.replayFaults es := by
      rw [hb, Sandbox.replay_faults]
      rfl
    rw [hfaults, Sandbox.replayFaults_stray, Sandbox.replayFaults_dropped, hreplay, hb]
    exact s.queued_replay rfl es
  have hfa := congrArg (fun s => s.hub.faults.sent) ha
  refine ⟨⟨?state, ?readers, ?engine⟩, ⟨?_, ?_, ?_, ?_, ?_, ?_⟩, ?answers, ⟨?perm, ?strays, ?drops⟩,
    ?quiet, ?first, ?empty, ?replayed, ?order⟩
  case readers =>
    intro stream
    rw [ha, Sandbox.withFaults_reader]
  case answers =>
    intro before e after error hes
    have hpresent : (s.started.replay before).present = true := s.started.replay_present before
    rw [hcalled, hlate]
    exact ⟨answer_report_error rfl rfl e error, answer_report_error rfl hpresent e error⟩
  case perm =>
    rw [hfa]
    exact List.filter_append_perm _ _
  case strays =>
    rw [hfa]
    exact (filter_parts EngineFault.isStray _).1
  case drops =>
    rw [hfa]
    exact (filter_parts EngineFault.isStray _).2
  case quiet =>
    intro before after hes
    rw [hcalled]
    exact ⟨rfl, rfl⟩
  case first =>
    rw [hopened]
    rfl
  case empty =>
    rw [hopened]
    rfl
  case replayed =>
    rw [hreplay, hopened, hcalled]
  case order =>
    intro before after hes
    rw [hopened, Sandbox.replay_lifecycle]
    rfl
  all_goals
    rw [ha]
    rfl

end Stage

end Confine
