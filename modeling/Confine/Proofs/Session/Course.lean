import Confine.Proofs.Sandbox.Calls
import Confine.Session.Script

/-!
Sessions as courses. Whatever a session does to its sandbox and asks of its engine, if the engine
follows a script, is some moves of a course, so that what holds throughout every course holds
throughout every session.
-/

namespace Confine

namespace Stage

/-- Some moves lead from one stage to another and bring the engine some calls. -/
def Leads (w : Stage) (past : List EngineCall) (w' : Stage) : Prop :=
  ∃ ms, w.run ms = w' ∧ w.gather calls ms = past

theorem Leads.refl (w : Stage) : w.Leads [] w := ⟨[], rfl, rfl⟩

theorem Leads.trans {w₁ w₂ w₃ : Stage} {past past' : List EngineCall} (h : w₁.Leads past w₂)
    (h' : w₂.Leads past' w₃) : w₁.Leads (past ++ past') w₃ := by
  obtain ⟨ms, rfl, rfl⟩ := h
  obtain ⟨ns, rfl, rfl⟩ := h'
  exact ⟨ms ++ ns, run_append w₁ ms ns, gather_append calls w₁ ms ns⟩

theorem leads_next (w : Stage) (m : Move) : w.Leads (w.calls m) (w.next m) :=
  ⟨[m], rfl, List.append_nil _⟩

theorem Consistent.run {w : Stage} (h : w.Consistent) (ms : List Move) :
    (w.run ms).Consistent := by
  induction ms generalizing w with
  | nil => exact h
  | cons m ms ih => exact ih (h.turn (w.turn m))

/-- No spawn is in progress as long as the sandbox is idle. -/
theorem Consistent.inCall_of_idle {w : Stage} (h : w.Consistent) (idle : w.sandbox.state = .idle) :
    w.inCall = false := by
  cases call : w.inCall with
  | false => rfl
  | true => exact absurd ((h.spawning_iff.mpr call).symm.trans idle) Lifecycle.noConfusion

theorem Leads.consistent {w w' : Stage} {past : List EngineCall} (h : w.Leads past w')
    (hc : w.Consistent) : w'.Consistent := by
  obtain ⟨ms, rfl, -⟩ := h
  exact hc.run ms

theorem next_read (w : Stage) (stream : Stream) (max : Option Nat) :
    w.next (.read stream max) = { w with
      sandbox := w.sandbox.setReader stream ((w.sandbox.reader stream).readMax max).1 } := rfl

/-- Everything that is buffered can be read chunk by chunk. -/
theorem leads_drain (w : Stage) (stream : Stream) : w.Leads [] { w with
    sandbox := w.sandbox.setReader stream (w.sandbox.reader stream).drain.1 } := by
  generalize hn : (w.sandbox.reader stream).chunks.length = n
  induction n generalizing w with
  | zero =>
    have hnil := List.eq_nil_of_length_eq_zero hn
    rw [Reader.drain_of_nil hnil, Sandbox.setReader_reader]
    exact .refl w
  | succ n ih =>
    obtain ⟨chunk, rest, hc⟩ := List.exists_cons_of_length_eq_add_one hn
    have hnext := w.next_read stream none
    have hrest := ih (w.next (.read stream none)) (by
      rw [hnext, Sandbox.reader_setReader, Reader.readMax_none hc]
      rw [hc, List.length_cons] at hn
      exact Nat.succ.inj hn)
    rw [hnext, Sandbox.reader_setReader, Reader.drain_readMax hc,
      Sandbox.setReader_setReader] at hrest
    exact (hnext ▸ w.leads_next (.read stream none)).trans hrest

theorem leads_poll (w : Stage) (task : Task) :
    w.Leads [] { w with sandbox := (w.sandbox.poll task).1 } := by
  cases task with
  | read stream asleep =>
    have hsandbox : (w.sandbox.poll (.read stream asleep)).1 =
        w.sandbox.setReader stream ((w.sandbox.reader stream).pollRead asleep).1 := rfl
    rw [hsandbox]
    rcases (w.sandbox.reader stream).pollRead_reader asleep with hr | hr
    · rw [hr, Sandbox.setReader_reader]
      exact .refl w
    · rw [hr, ← w.next_read]
      exact w.leads_next _
  | readToEnd stream taken asleep =>
    have hsandbox : (w.sandbox.poll (.readToEnd stream taken asleep)).1 =
        w.sandbox.setReader stream ((w.sandbox.reader stream).pollReadToEnd taken asleep).1 := rfl
    rw [hsandbox]
    rcases (w.sandbox.reader stream).pollReadToEnd_reader taken asleep with hr | hr
    · rw [hr, Sandbox.setReader_reader]
      exact .refl w
    · rw [hr]
      exact w.leads_drain stream
  | readerWritable stream asleep => exact .refl w
  | sinkWritable fd =>
    rw [← next_seekRoom, ← w.calls_seekRoom fd]
    exact w.leads_next _
  | sinkAsleep stream asleep => exact .refl w
  | termination => exact .refl w

end Stage

namespace Session

open Stage

variable {ε κ : Type}

/-- What a course knows of a session. -/
def stage (s : Session ε) (inCall : Bool) : Stage :=
  { sandbox := s.sandbox, hasSink := s.asked, inCall }

/-- A session goes on to another by moves alone, which bring the engine some calls, and its engine
stays fit. -/
structure Follows (fit : ε → Prop) (inCall : Bool) (s : Session ε) (past : List EngineCall)
    (s' : Session ε) : Prop where
  leads : (s.stage inCall).Leads past (s'.stage inCall)
  fit : fit s.engine → fit s'.engine

end Session

/-- A link whose engine touches the sandbox by moves alone, as long as it is fit. What it records of
a call tells the call itself first, and then the calls that were made during it. -/
structure EngineLink.Courteous (link : EngineLink ε κ) (told : κ → List EngineCall)
    (fit : ε → Prop) (inCall : Bool) : Prop where
  spawn : inCall = false → ∀ (s : Session ε) request, fit s.engine → (s.stage true).Consistent →
    ∃ inner, (link.spawn s request).2.2.flatMap told = .spawn request :: inner ∧
      s.Follows fit true inner (link.spawn s request).1
  kill : ∀ s : Session ε, fit s.engine → (s.stage inCall).Consistent →
    ∃ inner, (link.kill s).2.flatMap told = .kill :: inner ∧
      s.Follows fit inCall inner (link.kill s).1
  write : ∀ (s : Session ε) bytes, fit s.engine → (s.stage inCall).Consistent →
    ∃ inner, (link.write s bytes).2.2.flatMap told = .writeStdin bytes :: inner ∧
      s.Follows fit inCall inner (link.write s bytes).1
  close : ∀ s : Session ε, fit s.engine → (s.stage inCall).Consistent →
    ∃ inner, (link.close s).2.flatMap told = .closeStdin :: inner ∧
      s.Follows fit inCall inner (link.close s).1
  settle : ∀ attempt (s : Session ε), (∀ s : Session ε, s.Follows fit inCall [] (attempt s).1) →
    s.Follows fit inCall [] (link.settle attempt s).1

namespace Session

open Stage

variable {ε κ : Type} {told : κ → List EngineCall} {fit : ε → Prop} {inCall : Bool}

theorem Follows.refl (s : Session ε) : s.Follows fit inCall [] s := ⟨.refl _, id⟩

theorem Follows.trans {s₁ s₂ s₃ : Session ε} {past past' : List EngineCall}
    (h : s₁.Follows fit inCall past s₂) (h' : s₂.Follows fit inCall past' s₃) :
    s₁.Follows fit inCall (past ++ past') s₃ :=
  ⟨h.leads.trans h'.leads, h'.fit ∘ h.fit⟩

/-- One move that leaves the engine alone. -/
theorem Follows.of_next {s s' : Session ε} (m : Move)
    (h : (s.stage inCall).next m = s'.stage inCall) (hm : (s.stage inCall).calls m = [])
    (he : s'.engine = s.engine) : s.Follows fit inCall [] s' :=
  ⟨h ▸ hm ▸ (s.stage inCall).leads_next m, fun hf => he ▸ hf⟩

/-- A move that brings the engine a call, and what follows during that call. -/
theorem Follows.calling {s s₁ s₂ : Session ε} {call : EngineCall} {inner : List EngineCall}
    (m : Move) (h : (s.stage inCall).next m = s₁.stage inCall)
    (hm : (s.stage inCall).calls m = [call]) (he : s₁.engine = s.engine)
    (hinner : s₁.Follows fit inCall inner s₂) : s.Follows fit inCall (call :: inner) s₂ := by
  have hcall := (s.stage inCall).leads_next m
  rw [h, hm] at hcall
  exact ⟨hcall.trans hinner.leads, fun hf => hinner.fit (he ▸ hf)⟩

/-- Waits and subscriptions are no part of the stage. -/
theorem Follows.of_same {s s' : Session ε} (hs : s'.sandbox = s.sandbox) (ha : s'.asked = s.asked)
    (he : s'.engine = s.engine) : s.Follows fit inCall [] s' := by
  refine ⟨?_, fun hf => he ▸ hf⟩
  rw [stage, stage, hs, ha]
  exact .refl _

theorem follows_poll (s : Session ε) (id : String) : s.Follows fit inCall [] (s.poll id).1 := by
  rw [poll]
  split
  · exact .refl s
  · next task _ =>
    have hleads := (s.stage inCall).leads_poll task
    simp only [stage] at hleads
    split <;> next hp =>
      rw [hp] at hleads
      exact ⟨hleads, fun hf => hf⟩

section Link

variable {link : EngineLink ε κ} (h : link.Courteous told fit inCall) {s : Session ε}
  (hf : fit s.engine) (hc : (s.stage inCall).Consistent)

include h hf hc

/-- The engine's spawn call, from the request to the moment before it returns. -/
theorem leads_called (present : s.sandbox.present = true) {options : SpawnOptions}
    {sandbox : Sandbox} {request : SpawnRequest}
    (hb : s.sandbox.beginSpawn options = .ok (sandbox, request)) :
    let called := link.spawn { s with sandbox, asked := true } request
    (s.stage inCall).Leads (called.2.2.flatMap told) (called.1.stage true) ∧
      fit called.1.engine := by
  intro called
  have hcalls : (s.stage inCall).calls (.spawn options) = [.spawn request] :=
    calls_spawn (w := s.stage inCall) present hb
  obtain ⟨idle, rfl⟩ := Sandbox.beginSpawn_ok hb
  have hcall : inCall = false := hc.inCall_of_idle idle
  subst hcall
  let begun : Session ε := { s with sandbox := s.sandbox.begun, asked := true }
  have hbegun : (s.stage false).Leads [.spawn request] (begun.stage true) := by
    have hlead := (s.stage false).leads_next (.spawn options)
    rw [hcalls, next_spawn present idle options] at hlead
    exact hlead
  obtain ⟨inner, hinner, hcalled⟩ := h.spawn rfl begun request hf (hbegun.consistent hc)
  exact ⟨hinner ▸ hbegun.trans hcalled.leads, hcalled.fit hf⟩

theorem follows_spawn (present : s.sandbox.present = true) (options : SpawnOptions) :
    s.Follows fit inCall ((s.spawn link options).2.2.flatMap told)
      (s.spawn link options).1 := by
  rw [spawn]
  split
  · exact .refl s
  · next sandbox request hb =>
    obtain ⟨hcalled, hfit⟩ := leads_called h hf hc present hb
    have hcall : inCall = false := hc.inCall_of_idle (Sandbox.beginSpawn_ok hb).1
    refine ⟨?_, fun _ => hfit⟩
    subst hcall
    generalize link.spawn { s with sandbox, asked := true } request = called at hcalled ⊢
    have hreturned : (called.1.stage true).Leads []
        ((called.1.stage true).next (.spawnReturns called.2.1)) := ⟨[.spawnReturns _], rfl, rfl⟩
    have hleads := hcalled.trans hreturned
    rw [List.append_nil] at hleads
    exact hleads

theorem follows_kill (present : s.sandbox.present = true) :
    s.Follows fit inCall ((s.kill link).2.2.flatMap told) (s.kill link).1 := by
  rw [kill]
  split
  · exact .refl s
  · exact .refl s
  · next hk =>
    obtain ⟨inner, hinner, hkilled⟩ := h.kill s hf hc
    have hcalls : (s.stage inCall).calls .kill = [.kill] :=
      calls_kill_of_forwarded (w := s.stage inCall) present hk
    exact hinner ▸ .calling .kill (next_kill _) hcalls rfl hkilled

theorem follows_write (bytes : Bytes) :
    s.Follows fit inCall ((s.write link bytes).2.2.flatMap told) (s.write link bytes).1 := by
  rw [write]
  split
  · exact .refl s
  · next hw =>
    obtain ⟨inner, hinner, hwritten⟩ := h.write s bytes hf hc
    have hcalls : (s.stage inCall).calls (.write bytes true) = [.writeStdin bytes] :=
      calls_write_of_checked (w := s.stage inCall) hw bytes true
    exact hinner ▸ .calling (.write bytes true) (next_write _ bytes true) hcalls rfl hwritten

theorem follows_endStdin :
    s.Follows fit inCall ((s.endStdin link).2.2.flatMap told) (s.endStdin link).1 := by
  rw [endStdin]
  split
  · exact .refl s
  · next sandbox he =>
    exact .of_next .endStdin (next_endStdin he) (calls_endStdin (w := s.stage inCall) he) rfl
  · next sandbox he =>
    let ended : Session ε := { s with sandbox }
    have hnext : (s.stage inCall).next .endStdin = ended.stage inCall := next_endStdin he
    have hcalls : (s.stage inCall).calls .endStdin = [.closeStdin] :=
      calls_endStdin (w := s.stage inCall) he
    have hended := (s.stage inCall).leads_next .endStdin
    rw [hnext] at hended
    obtain ⟨inner, hinner, hclosed⟩ := h.close ended hf (hended.consistent hc)
    exact hinner ▸ .calling .endStdin hnext hcalls rfl hclosed

end Link

theorem follows_report (s : Session ε) (e : EngineEvent) (answered : Bool) :
    s.Follows fit inCall [] (s.report e answered).1 := by
  rw [report]
  split
  · exact .refl s
  · next hasked =>
    have hsink : s.asked = true := by simpa using hasked
    exact .of_next (.report e) (next_report (w := s.stage inCall) hsink e) (calls_report _ e) rfl

theorem follows_create (s : Session ε) (id : String) (wait : Wait) :
    s.Follows fit inCall [] (s.create id wait).1 := by
  have hmade : s.Follows fit inCall [] { s with tasks := s.tasks.set id wait.task } :=
    .of_same rfl rfl rfl
  cases wait with
  | sinkWritable fd =>
    simp only [create]
    split
    · exact hmade
    · exact .refl s
  | termination =>
    simp only [create]
    split
    · exact hmade
    · exact .refl s
  | _ => exact hmade

theorem follows_subscribe (s : Session ε) (present : s.sandbox.present = true) (id : String)
    (topic : Topic) : s.Follows fit inCall [] (s.subscribe id topic) := by
  let joined : Session ε := { s with
    sandbox := { s.sandbox with hub := (s.sandbox.hub.subscribe topic).1 } }
  have hjoined : s.Follows fit inCall [] joined :=
    .of_next (.subscribe topic) (next_subscribe (w := s.stage inCall) present topic)
      (calls_subscribe _ topic) rfl
  rw [subscribe]
  cases s.subscriptions.find? id with
  | none => exact hjoined.trans (.of_same rfl rfl rfl)
  | some old => exact hjoined.trans (.of_next (.unsubscribe old.topic) rfl rfl rfl)

theorem follows_unsubscribe (s : Session ε) (id : String) :
    s.Follows fit inCall [] (s.unsubscribe id).1 := by
  rw [unsubscribe]
  split
  · exact .refl s
  · next old _ => exact .of_next (.unsubscribe old.topic) rfl rfl rfl

theorem follows_receive (s : Session ε) (id : String) :
    s.Follows fit inCall [] (s.receive id).1 := by
  rw [receive]
  split
  · exact .refl s
  · exact .of_same rfl rfl rfl

theorem follows_receiveAll (s : Session ε) (id : String) :
    s.Follows fit inCall [] (s.receiveAll id).1 := by
  rw [receiveAll]
  split
  · exact .refl s
  · exact .of_same rfl rfl rfl

theorem follows_dropSandbox (s : Session ε) (hcall : inCall = false) :
    s.Follows fit inCall [] s.dropSandbox.1 := by
  rw [dropSandbox]
  split
  · subst hcall
    exact .of_next .drop rfl rfl rfl
  · exact .refl s

theorem follows_await {link : EngineLink ε κ} (h : link.Courteous told fit inCall)
    (s : Session ε) (id : String) : s.Follows fit inCall [] (s.await link id).1 := by
  have hsettled := h.settle (fun s => s.poll id) s fun s => s.follows_poll id
  rw [await]
  split
  · next he =>
    rw [he] at hsettled
    exact hsettled
  · exact hsettled

theorem follows_owner {s : Session ε} {step : Step ε κ} (h : s.sandbox.present = true →
    s.Follows fit inCall (step.2.2.flatMap told) step.1) :
    s.Follows fit inCall ((s.owner step).2.2.flatMap told) (s.owner step).1 := by
  rw [owner]
  split
  · next present => exact h present
  · exact .refl s

/-- Every operation is a course of moves; only a drop must wait for the engine's spawn call. -/
theorem follows_perform {link : EngineLink ε κ} (h : link.Courteous told fit inCall)
    {s : Session ε} (hf : fit s.engine) (hc : (s.stage inCall).Consistent) (op : Operation)
    (hop : inCall = true → op ≠ .dropSandbox) :
    s.Follows fit inCall ((s.perform link op).2.2.flatMap told) (s.perform link op).1 := by
  cases op with
  | write bytes => exact follows_write h hf hc bytes
  | endStdin => exact follows_endStdin h hf hc
  | read stream max => exact .of_next (.read stream max) rfl rfl rfl
  | drain stream => exact ⟨(s.stage inCall).leads_drain stream, fun hf => hf⟩
  | report e answered => exact s.follows_report e answered
  | create id wait => exact s.follows_create id wait
  | poll id => exact s.follows_poll id
  | await id => exact follows_await h s id
  | cancel id => exact .of_same rfl rfl rfl
  | receive id => exact s.follows_receive id
  | receiveAll id => exact s.follows_receiveAll id
  | unsubscribe id => exact s.follows_unsubscribe id
  | dropSandbox =>
    refine s.follows_dropSandbox ?_
    cases inCall with
    | false => rfl
    | true => exact absurd rfl (hop rfl)
  | spawn options => exact follows_owner fun present => follows_spawn h hf hc present options
  | kill => exact follows_owner fun present => follows_kill h hf hc present
  | setDebug value =>
    exact follows_owner fun present => .of_next (.setDebug value)
      (next_setDebug (w := s.stage inCall) present value) (calls_setDebug _ value) rfl
  | setMapping f =>
    exact follows_owner fun present => .of_next (.setMapping _)
      (next_setMapping (w := s.stage inCall) present _) (calls_setMapping _ _) rfl
  | resetMapping =>
    exact follows_owner fun present => .of_next (.setMapping _)
      (next_setMapping (w := s.stage inCall) present _) (calls_setMapping _ _) rfl
  | subscribe id topic => exact follows_owner fun present => s.follows_subscribe present id topic
  | describeReader stream => exact .refl s
  | attached => exact .refl s
  | map path => exact .refl s
  | state => exact follows_owner fun _ => .refl s
  | describe => exact follows_owner fun _ => .refl s
  | describeHub => exact follows_owner fun _ => .refl s
  | getDebug => exact follows_owner fun _ => .refl s
  | countSubscribers => exact follows_owner fun _ => .refl s

/-- The calls that the reports of a run tell. -/
def callsTold (told : κ → List EngineCall) (reports : List (StepReport κ)) : List EngineCall :=
  reports.flatMap fun report => report.calls.flatMap told

theorem follows_run {link : EngineLink ε κ} (h : link.Courteous told fit inCall) {s : Session ε}
    (hf : fit s.engine) (hc : (s.stage inCall).Consistent) (ops : List Operation)
    (hops : inCall = true → .dropSandbox ∉ ops) :
    s.Follows fit inCall (callsTold told (s.run link ops).2) (s.run link ops).1 := by
  induction ops generalizing s with
  | nil => exact .refl s
  | cons op ops ih =>
    have hop (hcall : inCall = true) : op ≠ .dropSandbox :=
      fun he => hops hcall (he ▸ List.mem_cons_self)
    have hstep := follows_perform h hf hc op hop
    exact hstep.trans (ih (hstep.fit hf) (hstep.leads.consistent hc)
      fun hcall hmem => hops hcall (List.mem_cons_of_mem _ hmem))

end Session

/-- A call as it was received, and then the calls that were received during it. -/
def ScriptedCall.told (c : ScriptedCall) : List EngineCall :=
  c.record.call :: Session.callsTold (fun record => [record.call]) (c.steps.getD [])

namespace Script

open Session

/-- A script whose engine does not try to drop the sandbox that is calling it to spawn. -/
def Orderly (script : Script) : Prop := ∀ ops, script.onSpawn = some ops → .dropSandbox ∉ ops

/-- An engine with an orderly script. -/
def Fit (e : ScriptedEngine) : Prop := e.script.Orderly

theorem quietLink_courteous (inCall : Bool) :
    quietLink.Courteous (fun record => [record.call]) Fit inCall where
  spawn _ s _ _ _ := ⟨[], rfl, .refl s⟩
  kill s _ _ := ⟨[], rfl, .refl s⟩
  write _ _ _ _ := ⟨[], rfl, .refl _, fun hf => hf⟩
  close s _ _ := ⟨[], rfl, .refl s⟩
  settle _ s h := h s

/-- What a script does during a call goes on from the call. -/
theorem follows_during {s : Session ScriptedEngine} {inCall : Bool} (hf : Fit s.engine)
    (hc : (s.stage inCall).Consistent) (ops : Option (List Operation)) (record : CallRecord)
    (hops : ∀ l, ops = some l → inCall = true → .dropSandbox ∉ l) :
    ∃ inner, (during ops record s).2.flatMap ScriptedCall.told = record.call :: inner ∧
      s.Follows Fit inCall inner (during ops record s).1 := by
  cases ops with
  | none => exact ⟨[], rfl, .refl s⟩
  | some l =>
    have hrun := follows_run (quietLink_courteous inCall) hf hc l (hops l rfl)
    exact ⟨_, congrArg (record.call :: ·) (List.append_nil _), hrun⟩

theorem link_courteous : link.Courteous ScriptedCall.told Fit false where
  spawn _ s request hf hc :=
    follows_during hf hc s.engine.script.onSpawn (s.spawnRecord request) fun l hl _ => hf l hl
  kill s hf hc := follows_during hf hc s.engine.script.onKill ⟨.kill, none⟩
    fun _ _ h => Bool.noConfusion h
  write s bytes hf hc := by
    have hcounted : s.Follows Fit false [] s.countWrite := ⟨.refl _, fun hf => hf⟩
    obtain ⟨inner, hinner, hduring⟩ := follows_during (s := s.countWrite) hf hc
      s.engine.script.onWrite ⟨.writeStdin bytes, none⟩ fun _ _ h => Bool.noConfusion h
    exact ⟨inner, hinner, hcounted.trans hduring⟩
  close s hf hc := follows_during hf hc s.engine.script.onClose ⟨.closeStdin, none⟩
    fun _ _ h => Bool.noConfusion h
  settle _ s h := h s

/-- Whatever a session does, its sandbox has come there by moves, which brought the engine just the
calls that it recorded. -/
theorem course_of_run (c : Config) {script : Script} (h : script.Orderly) (ops : List Operation) :
    let run := (Session.ofConfig c { script }).run link ops
    ∃ ms, (Stage.ofConfig c).run ms = run.1.stage false ∧
      (Stage.ofConfig c).gather Stage.calls ms = callsTold ScriptedCall.told run.2 := by
  have hrun := follows_run (s := Session.ofConfig c { script }) link_courteous h
    (Stage.consistent_ofConfig c) ops Bool.noConfusion
  exact hrun.leads

/-- The calls that a session records are in order, those received during other calls included. -/
theorem conversation_of_run (c : Config) {script : Script} (h : script.Orderly)
    (ops : List Operation) :
    let calls := callsTold ScriptedCall.told ((Session.ofConfig c { script }).run link ops).2
    (∃ whole, EngineCall.Conversation whole ∧ calls <+: whole) ∧
      calls.countP EngineCall.isSpawn ≤ 1 := by
  intro calls
  obtain ⟨ms, -, hcalls⟩ := course_of_run c h ops
  have hasked := Stage.asked_run c ms
  rw [hcalls] at hasked
  exact ⟨hasked.begins, hasked.spawns⟩

end Script

end Confine
