import Confine.Proofs.Sandbox.Consistency

/-!
The calls that an engine gets over a whole course. A sandbox asks for one child, then passes on
requests to kill and input while that child runs, and closes the input at most once.
-/

namespace Confine

namespace EngineCall

def isSpawn : EngineCall → Bool
  | spawn _ => true
  | _ => false

/-- Whether a call is for a running child whose stdin is open. -/
def isTraffic : EngineCall → Bool
  | kill | writeStdin _ => true
  | _ => false

/-- The whole of what an engine can be asked: a spawn, then any requests to kill and writes, and if
stdin is closed, only requests to kill after that. -/
inductive Conversation : List EngineCall → Prop
  | open (request : SpawnRequest) (traffic : List EngineCall)
      (h : ∀ call ∈ traffic, call.isTraffic = true) : Conversation (.spawn request :: traffic)
  | closed (request : SpawnRequest) (traffic kills : List EngineCall)
      (h : ∀ call ∈ traffic, call.isTraffic = true) (hk : ∀ call ∈ kills, call = .kill) :
      Conversation (.spawn request :: traffic ++ .closeStdin :: kills)

theorem Conversation.kill {calls : List EngineCall} (h : Conversation calls) :
    Conversation (calls ++ [.kill]) := by
  cases h with
  | «open» request traffic h =>
    have hlast : ∀ call ∈ [EngineCall.kill], call.isTraffic = true :=
      List.forall_mem_singleton.mpr rfl
    exact .open request (traffic ++ [.kill]) (List.forall_mem_append.mpr ⟨h, hlast⟩)
  | closed request traffic kills h hk =>
    have hlast : ∀ call ∈ [EngineCall.kill], call = .kill := List.forall_mem_singleton.mpr rfl
    have hkills := List.forall_mem_append.mpr ⟨hk, hlast⟩
    rw [List.append_assoc, List.cons_append]
    exact .closed request traffic (kills ++ [.kill]) h hkills

/-- Before stdin is closed a conversation is a spawn with its traffic. -/
theorem Conversation.traffic {calls : List EngineCall} (h : Conversation calls)
    (hopen : .closeStdin ∉ calls) : ∃ request traffic, calls = .spawn request :: traffic ∧
      ∀ call ∈ traffic, call.isTraffic = true := by
  cases h with
  | «open» request traffic h => exact ⟨request, traffic, rfl, h⟩
  | closed request traffic kills =>
    exact absurd (List.mem_append_right _ List.mem_cons_self) hopen

theorem Conversation.write {calls : List EngineCall} (h : Conversation calls)
    (hopen : .closeStdin ∉ calls) (bytes : Bytes) :
    Conversation (calls ++ [.writeStdin bytes]) := by
  obtain ⟨request, traffic, rfl, htraffic⟩ := h.traffic hopen
  have hlast : ∀ call ∈ [writeStdin bytes], call.isTraffic = true :=
    List.forall_mem_singleton.mpr rfl
  exact .open request (traffic ++ [.writeStdin bytes])
    (List.forall_mem_append.mpr ⟨htraffic, hlast⟩)

theorem Conversation.close {calls : List EngineCall} (h : Conversation calls)
    (hopen : .closeStdin ∉ calls) : Conversation (calls ++ [.closeStdin]) := by
  obtain ⟨request, traffic, rfl, htraffic⟩ := h.traffic hopen
  exact .closed request traffic [] htraffic fun _ hc => absurd hc List.not_mem_nil

theorem Conversation.spawns {calls : List EngineCall} (h : Conversation calls) :
    calls.countP isSpawn = 1 := by
  have none_of {calls : List EngineCall} (hn : ∀ call ∈ calls, call.isSpawn = false) :
      calls.countP isSpawn = 0 :=
    List.countP_eq_zero.mpr fun call hc hs => Bool.noConfusion ((hn call hc).symm.trans hs)
  have of_traffic {call : EngineCall} (ht : call.isTraffic = true) : call.isSpawn = false := by
    cases call <;> first | rfl | exact absurd ht Bool.noConfusion
  cases h with
  | «open» request traffic h =>
    have htraffic := none_of fun call hc => of_traffic (h call hc)
    rw [List.countP_cons_of_pos rfl, htraffic]
  | closed request traffic kills h hk =>
    have htraffic := none_of fun call hc => of_traffic (h call hc)
    have hkills := none_of fun call hc => hk call hc ▸ rfl
    rw [List.countP_append, List.countP_cons_of_pos rfl, htraffic,
      List.countP_cons_of_neg Bool.noConfusion, hkills]

end EngineCall

namespace Sandbox

theorem Applied.stdinEnded {s : Sandbox} {e : EngineEvent}
    {p : Sandbox × Except SandboxError Bool} (h : s.Applied e p) :
    p.1.stdinEnded = s.stdinEnded := by
  cases h with
  | routed stream bytes =>
    rw [route_eq]
    cases stream <;> rfl
  | _ => rfl

theorem replay_stdinEnded (s : Sandbox) (es : List EngineEvent) :
    (s.replay es).stdinEnded = s.stdinEnded := by
  induction es generalizing s with
  | nil => rfl
  | cons e es ih => rw [replay_cons, ih, (s.applied e).stdinEnded]

theorem deliver_stdinEnded (s : Sandbox) (e : EngineEvent) :
    (s.deliver e).1.stdinEnded = s.stdinEnded := by
  rw [deliver]
  split
  · rfl
  · split
    · cases e with
      | data fd bytes =>
        simp only [postpone]
        split <;> rfl
      | _ => rfl
    · exact (s.applied e).stdinEnded

theorem sinkWritable_stdinEnded (s : Sandbox) (fd : Int) :
    (s.poll (.sinkWritable fd)).1.stdinEnded = s.stdinEnded := by
  have hstream : (s.streamOf fd).1.stdinEnded = s.stdinEnded := by
    rw [streamOf]
    split <;> rfl
  simp only [poll]
  split
  · rfl
  · generalize s.streamOf fd = p at hstream
    obtain ⟨s', e | stream⟩ := p <;> exact hstream

/-- Only an open stdin of a running child is closed through its engine. -/
theorem running_of_endStdin {s s' : Sandbox} (h : s.endStdin = .ok (s', true)) :
    s.stdinEnded = false ∧ s.present = true ∧ s.state = .running := by
  rw [endStdin] at h
  split at h
  · cases h
  · next hended =>
    have hended : s.stdinEnded = false := by simpa using hended
    split at h
    · cases h
    · next hp =>
      have hp : s.present = true := by simpa using hp
      split at h
      · next hrun =>
        refine ⟨hended, hp, ?_⟩
        rw [checkRunning] at hrun
        split at hrun
        · assumption
        · cases hrun
        · cases hrun
      · cases h
      · cases h

/-- A write reaches the engine of a running child whose stdin is open. -/
theorem checkWrite_ok {s : Sandbox} (h : s.checkWrite = .ok ()) :
    s.stdinEnded = false ∧ s.present = true ∧ s.state = .running := by
  rw [checkWrite] at h
  split at h
  · cases h
  · next hopen =>
    obtain ⟨hended, hp⟩ : s.stdinEnded = false ∧ s.present = true := by simpa using hopen
    refine ⟨hended, hp, ?_⟩
    rw [checkRunning] at h
    split at h
    · assumption
    · cases h
    · cases h

end Sandbox

namespace Stage

/-- The calls that a move brings the engine. -/
def calls (w : Stage) (m : Move) : List EngineCall := (w.act m).2.2

/-- A request to kill that is made while the child runs. -/
def killMade (w : Stage) : Move → List Unit
  | .kill => if w.sandbox.present = true ∧ w.sandbox.state = .running then [()] else []
  | _ => []

/-- Everything that a move can ask of the engine. -/
inductive Asking (w : Stage) : Move → List EngineCall → Prop
  | nothing (m : Move) : Asking w m []
  | spawn (options : SpawnOptions) (request : SpawnRequest) (present : w.sandbox.present = true)
      (idle : w.sandbox.state = .idle) : Asking w (.spawn options) [.spawn request]
  | kill (present : w.sandbox.present = true) (running : w.sandbox.state = .running) :
      Asking w .kill [.kill]
  | write (bytes : Bytes) (accepted : Bool) (ended : w.sandbox.stdinEnded = false)
      (running : w.sandbox.state = .running) :
      Asking w (.write bytes accepted) [.writeStdin bytes]
  | close (ended : w.sandbox.stdinEnded = false) (running : w.sandbox.state = .running)
      (closed : (w.next .endStdin).sandbox.stdinEnded = true) :
      Asking w .endStdin [.closeStdin]

theorem owner_calls (w : Stage) (turn : Stage × Answer × List EngineCall) :
    (w.owner turn).2.2 = if w.sandbox.present then turn.2.2 else [] := by
  rw [owner]
  split <;> rfl

theorem calls_kill {w : Stage} (h : w.Consistent) : w.calls .kill =
    if w.sandbox.present = true ∧ w.sandbox.state = .running then [.kill] else [] := by
  have hheld := h.linked.engineHeld
  rw [calls, act, owner_calls]
  cases hp : w.sandbox.present with
  | false => rfl
  | true =>
    rw [hp, Bool.true_and] at hheld
    simp only [Sandbox.killForwarded]
    cases hs : w.sandbox.state with
    | running =>
      rw [hs] at hheld
      simp only [hheld, Lifecycle.isTerminated, Bool.not_false, ↓reduceIte, and_self]
    | terminated t => simp only [reduceCtorEq, ↓reduceIte, and_false, Bool.false_eq_true]
    | idle => simp only [keep, reduceCtorEq, ↓reduceIte, and_false]
    | spawning => simp only [keep, reduceCtorEq, ↓reduceIte, and_false]

theorem calls_spawn {w : Stage} (present : w.sandbox.present = true) {options : SpawnOptions}
    {sandbox : Sandbox} {request : SpawnRequest}
    (hb : w.sandbox.beginSpawn options = .ok (sandbox, request)) :
    w.calls (.spawn options) = [.spawn request] := by
  rw [calls, act, owner_calls, if_pos present, hb]

theorem calls_kill_of_forwarded {w : Stage} (present : w.sandbox.present = true)
    (h : w.sandbox.killForwarded = .ok true) : w.calls .kill = [.kill] := by
  rw [calls, act, owner_calls, if_pos present, h]
  rfl

theorem calls_write_of_checked {w : Stage} (h : w.sandbox.checkWrite = .ok ()) (bytes : Bytes)
    (accepted : Bool) : w.calls (.write bytes accepted) = [.writeStdin bytes] := by
  simp only [calls, act, h]

theorem calls_endStdin {w : Stage} {sandbox : Sandbox} {asked : Bool}
    (h : w.sandbox.endStdin = .ok (sandbox, asked)) :
    w.calls .endStdin = if asked then [.closeStdin] else [] := by
  simp only [calls, act, h]

section Silent

variable (w : Stage)

theorem calls_spawnReturns (outcome : Except EngineError Unit) :
    w.calls (.spawnReturns outcome) = [] := by
  simp only [calls, act]
  split <;> rfl

theorem calls_report (e : EngineEvent) : w.calls (.report e) = [] := by
  simp only [calls, act]
  split <;> rfl

theorem calls_seekRoom (fd : Int) : w.calls (.seekRoom fd) = [] := by
  simp only [calls, act]
  split <;> rfl

theorem calls_awaitEnd : w.calls .awaitEnd = [] := by
  rw [calls, act, owner_calls]
  split
  · split <;> rfl
  · rfl

theorem calls_setDebug (value : Bool) : w.calls (.setDebug value) = [] := by
  rw [calls, act, owner_calls, ite_self]

theorem calls_setMapping (mapping : PathMapping) : w.calls (.setMapping mapping) = [] := by
  rw [calls, act, owner_calls, ite_self]

theorem calls_subscribe (topic : Topic) : w.calls (.subscribe topic) = [] := by
  rw [calls, act, owner_calls, ite_self]

theorem calls_drop : w.calls .drop = [] := by
  simp only [calls, act]
  split <;> rfl

end Silent

theorem asking_spawn (w : Stage) (options : SpawnOptions) :
    w.Asking (.spawn options) (w.calls (.spawn options)) := by
  rw [calls, act, owner_calls]
  split
  · next hp =>
    split
    · exact .nothing _
    · next hb => exact .spawn options _ hp (Sandbox.beginSpawn_ok hb).1
  · exact .nothing _

theorem asking_kill {w : Stage} (h : w.Consistent) : w.Asking .kill (w.calls .kill) := by
  rw [calls_kill h]
  split
  · next hkill => exact .kill hkill.1 hkill.2
  · exact .nothing _

theorem asking_write (w : Stage) (bytes : Bytes) (accepted : Bool) :
    w.Asking (.write bytes accepted) (w.calls (.write bytes accepted)) := by
  simp only [calls, act]
  split
  · exact .nothing _
  · next hw =>
    obtain ⟨hended, -, hrunning⟩ := Sandbox.checkWrite_ok hw
    exact .write bytes accepted hended hrunning

theorem asking_endStdin (w : Stage) : w.Asking .endStdin (w.calls .endStdin) := by
  simp only [calls, act]
  split
  · exact .nothing _
  · next s asked he =>
    cases asked with
    | false => exact .nothing _
    | true =>
      obtain ⟨hended, -, hrunning⟩ := Sandbox.running_of_endStdin he
      exact .close hended hrunning (by rw [next_endStdin he, Sandbox.endStdin_sandbox he])

theorem asking {w : Stage} (h : w.Consistent) (m : Move) : w.Asking m (w.calls m) := by
  have silent {m : Move} (hm : w.calls m = []) : w.Asking m (w.calls m) := by
    rw [hm]
    exact .nothing m
  cases m with
  | spawn options => exact w.asking_spawn options
  | kill => exact asking_kill h
  | write bytes accepted => exact w.asking_write bytes accepted
  | endStdin => exact w.asking_endStdin
  | spawnReturns outcome => exact silent (w.calls_spawnReturns outcome)
  | report e => exact silent (w.calls_report e)
  | seekRoom fd => exact silent (w.calls_seekRoom fd)
  | read stream max => exact silent rfl
  | awaitEnd => exact silent w.calls_awaitEnd
  | setDebug value => exact silent (w.calls_setDebug value)
  | setMapping mapping => exact silent (w.calls_setMapping mapping)
  | subscribe topic => exact silent (w.calls_subscribe topic)
  | unsubscribe topic => exact silent rfl
  | drop => exact silent w.calls_drop

/-- An engine that was called once stays so. -/
theorem hasSink_next {w : Stage} (h : w.hasSink = true) (m : Move) :
    (w.next m).hasSink = true := by
  generalize hw : w.next m = w'
  have ht := w.turn m
  rw [hw] at ht
  cases ht with
  | begun => rfl
  | _ => exact h

/-- Only a call to spawn gives an engine its sink. -/
theorem hasSink_of_next {w : Stage} {m : Move} (h : (w.next m).hasSink = true)
    (hm : w.calls m = []) : w.hasSink = true := by
  generalize hw : w.next m = w' at h
  have ht := w.turn m
  rw [hw] at ht
  cases ht with
  | begun options present idle =>
    rw [calls, act, owner_calls, if_pos present] at hm
    simp only [Sandbox.beginSpawn, idle] at hm
    cases hm
  | _ => exact h

/-- Only a request to close stdin can close it. -/
theorem stdinEnded_next_of_ne {w : Stage} {m : Move} (hm : m ≠ .endStdin) :
    (w.next m).sandbox.stdinEnded = w.sandbox.stdinEnded := by
  have settled {s : Sandbox} (hs : s.stdinEnded = w.sandbox.stdinEnded) :
      (if w.sandbox.present then { w with sandbox := s } else w).sandbox.stdinEnded =
        w.sandbox.stdinEnded := by
    split
    · exact hs
    · rfl
  cases m with
  | spawn options =>
    simp only [next, act, owner_fst]
    split
    · split
      · rfl
      · next hb =>
        obtain ⟨-, rfl⟩ := Sandbox.beginSpawn_ok hb
        rfl
    · rfl
  | spawnReturns outcome =>
    simp only [next, act]
    split
    · rfl
    · cases outcome with
      | ok => exact Sandbox.replay_stdinEnded _ _
      | error e => rfl
  | report e =>
    simp only [next, act]
    split
    · rfl
    · exact Sandbox.deliver_stdinEnded _ e
  | seekRoom fd =>
    have hseek := w.sandbox.sinkWritable_stdinEnded fd
    simp only [next, act]
    generalize w.sandbox.poll (.sinkWritable fd) = p at hseek
    obtain ⟨s, value | task⟩ := p <;> exact hseek
  | read stream max => cases stream <;> rfl
  | awaitEnd => rw [next_awaitEnd]
  | kill => rw [next_kill]
  | write bytes accepted => rw [next_write]
  | endStdin => exact absurd rfl hm
  | setDebug value =>
    rw [next, act, owner_fst]
    exact settled rfl
  | setMapping mapping =>
    rw [next, act, owner_fst]
    exact settled rfl
  | subscribe topic =>
    rw [next, act, owner_fst]
    exact settled rfl
  | unsubscribe topic => rfl
  | drop =>
    simp only [next, act]
    split <;> rfl

/-- A stdin that was closed stays closed. -/
theorem stdinEnded_next {w : Stage} (h : w.sandbox.stdinEnded = true) (m : Move) :
    (w.next m).sandbox.stdinEnded = true := by
  by_cases hm : m = .endStdin
  · subst hm
    simp only [next, act]
    split
    · exact h
    · next he => rw [Sandbox.endStdin_sandbox he]
  · exact (stdinEnded_next_of_ne hm).trans h

/-- The calls so far against the sandbox: none before the spawn, a conversation from then on, in
which stdin is closed only if the sandbox knows of it. -/
structure Asked (w : Stage) (calls : List EngineCall) : Prop where
  silent : w.hasSink = false → calls = []
  conversation : w.hasSink = true → EngineCall.Conversation calls
  ended : .closeStdin ∈ calls → w.sandbox.stdinEnded = true

/-- The calls are the beginning of a conversation, if only because there are none. -/
theorem Asked.begins {w : Stage} {calls : List EngineCall} (h : w.Asked calls) :
    ∃ whole, EngineCall.Conversation whole ∧ calls <+: whole := by
  cases hsink : w.hasSink with
  | true => exact ⟨calls, h.conversation hsink, List.prefix_refl calls⟩
  | false =>
    let request : SpawnRequest := { options := { program := "" }, debugOnCrash := false }
    have hopen : EngineCall.Conversation [.spawn request] :=
      .open request [] fun _ hmem => absurd hmem List.not_mem_nil
    rw [h.silent hsink]
    exact ⟨_, hopen, List.nil_prefix⟩

theorem Asked.spawns {w : Stage} {calls : List EngineCall} (h : w.Asked calls) :
    calls.countP EngineCall.isSpawn ≤ 1 := by
  cases hsink : w.hasSink with
  | true => exact Nat.le_of_eq (h.conversation hsink).spawns
  | false =>
    rw [h.silent hsink]
    exact Nat.zero_le 1

/-- A running child was spawned. -/
theorem Consistent.sink_of_running {w : Stage} (h : w.Consistent)
    (running : w.sandbox.state = .running) : w.hasSink = true := by
  rw [h.sink_iff, running]
  exact Lifecycle.noConfusion

theorem Asked.next {w : Stage} {past : List EngineCall} (h : w.Asked past) (hc : w.Consistent)
    (m : Move) : (w.next m).Asked (past ++ w.calls m) := by
  have hasking := asking hc m
  have hopen (hs : w.sandbox.stdinEnded = false) : .closeStdin ∉ past :=
    fun hmem => Bool.noConfusion (hs.symm.trans (h.ended hmem))
  -- A call to an engine that has a sink goes on with the conversation.
  have goes_on {call : EngineCall} (sink : w.hasSink = true)
      (hconv : EngineCall.Conversation (past ++ [call]))
      (hclose : call = .closeStdin → (w.next m).sandbox.stdinEnded = true) :
      (w.next m).Asked (past ++ [call]) := by
    refine ⟨fun hs => ?_, fun _ => hconv, fun hmem => ?_⟩
    · exact absurd ((hasSink_next sink m).symm.trans hs) Bool.noConfusion
    · rcases List.mem_append.mp hmem with hmem | hmem
      · exact stdinEnded_next (h.ended hmem) m
      · exact hclose (List.mem_singleton.mp hmem).symm
  generalize hcalls : w.calls m = calls at hasking
  cases hasking with
  | nothing =>
    rw [List.append_nil]
    refine ⟨fun hs => h.silent ?_, fun hs => ?_, fun hmem => stdinEnded_next (h.ended hmem) m⟩
    · cases hsink : w.hasSink with
      | false => rfl
      | true => exact absurd ((hasSink_next hsink m).symm.trans hs) Bool.noConfusion
    · exact h.conversation (hasSink_of_next hs hcalls)
  | spawn options request present idle =>
    have hsink : w.hasSink = false := by
      cases hsink : w.hasSink with
      | false => rfl
      | true => exact absurd idle (hc.sink_iff.mp hsink)
    rw [h.silent hsink, next_spawn present idle]
    refine ⟨fun hs => Bool.noConfusion hs, fun _ => ?_, fun hmem => ?_⟩
    · exact .open request [] fun _ hmem => absurd hmem List.not_mem_nil
    · exact EngineCall.noConfusion (List.mem_singleton.mp hmem)
  | kill present running =>
    have sink := hc.sink_of_running running
    exact goes_on sink (h.conversation sink).kill fun he => EngineCall.noConfusion he
  | write bytes accepted ended running =>
    have sink := hc.sink_of_running running
    exact goes_on sink ((h.conversation sink).write (hopen ended) bytes)
      fun he => EngineCall.noConfusion he
  | close ended running closed =>
    have sink := hc.sink_of_running running
    exact goes_on sink ((h.conversation sink).close (hopen ended)) fun _ => closed

theorem asked_run (c : Config) (ms : List Move) :
    ((ofConfig c).run ms).Asked ((ofConfig c).gather calls ms) := by
  refine run_induction (P := fun ms w => w.Asked ((ofConfig c).gather calls ms)) (ofConfig c) ?_
    (fun ms m h => ?_) ms
  · exact ⟨fun _ => rfl, fun hs => Bool.noConfusion hs, fun hmem => absurd hmem List.not_mem_nil⟩
  · rw [gather_concat]
    exact h.next (consistent_run c ms) m

/-- The engine is asked to kill once for each request that is made while the child runs. -/
theorem count_kill_calls {w : Stage} (h : w.Consistent) (m : Move) :
    (w.calls m).count .kill = (w.killMade m).length := by
  have hasking := asking h m
  generalize hcalls : w.calls m = calls at hasking
  cases hasking with
  | nothing =>
    cases m with
    | kill =>
      rw [calls_kill h] at hcalls
      rw [killMade]
      split at hcalls
      · cases hcalls
      · next hn => rw [if_neg hn]; rfl
    | _ => rfl
  | kill present running => rw [killMade, if_pos ⟨present, running⟩]; rfl
  | _ => rfl

theorem count_kill_run (c : Config) (ms : List Move) :
    ((ofConfig c).gather calls ms).count .kill = ((ofConfig c).gather killMade ms).length := by
  refine run_induction (P := fun ms _ => ((ofConfig c).gather calls ms).count .kill =
    ((ofConfig c).gather killMade ms).length) (ofConfig c) rfl (fun ms m h => ?_) ms
  rw [gather_concat, gather_concat, List.count_append, List.length_append, h,
    count_kill_calls (consistent_run c ms)]

/-- Over every course the engine is asked in one order: a spawn, then requests to kill and writes in
any mix, then the closing of stdin at most once and only requests to kill after it. It is spawned at
most once, is asked for anything else only while its child runs, and gets each request to kill that
is made then. -/
theorem calls_in_order (c : Config) (ms : List Move) :
    let w := (ofConfig c).run ms
    let past := (ofConfig c).gather calls ms
    (∃ whole, EngineCall.Conversation whole ∧ past <+: whole) ∧
    past.countP EngineCall.isSpawn ≤ 1 ∧
    (∀ m, ∀ call ∈ w.calls m, call.isSpawn = true → w.sandbox.state = .idle) ∧
    (∀ m, ∀ call ∈ w.calls m, call.isSpawn = false → w.sandbox.state = .running) ∧
    (w.calls .kill =
      if w.sandbox.present = true ∧ w.sandbox.state = .running then [.kill] else []) ∧
    past.count .kill = ((ofConfig c).gather killMade ms).length := by
  intro w past
  have hw : w.Consistent := consistent_run c ms
  have hpast : w.Asked past := asked_run c ms
  refine ⟨hpast.begins, hpast.spawns, fun m call hcall hs => ?spawned,
    fun m call hcall hs => ?running, calls_kill hw, count_kill_run c ms⟩
  case spawned =>
    have hasking := asking hw m
    generalize w.calls m = calls at hasking hcall
    cases hasking with
    | nothing => exact absurd hcall List.not_mem_nil
    | spawn options request present idle => exact idle
    | _ =>
      rw [List.mem_singleton.mp hcall] at hs
      exact Bool.noConfusion hs
  case running =>
    have hasking := asking hw m
    generalize w.calls m = calls at hasking hcall
    cases hasking with
    | nothing => exact absurd hcall List.not_mem_nil
    | spawn options request present idle =>
      rw [List.mem_singleton.mp hcall] at hs
      exact Bool.noConfusion hs
    | kill present running => exact running
    | write bytes accepted ended running => exact running
    | close ended running => exact running

end Stage

end Confine
