import Confine.Proofs.Sandbox.Refusals
import Confine.Proofs.Session.Course

/-!
The answers of sessions. An operation is told what the move that it makes is told, so that what
holds of answers throughout every course holds of those throughout every session.
-/

namespace Confine

namespace Session

open Stage

variable {ε κ : Type}

/-- The moves whose answers an operation can get. A spawn gets the answer to its own move if it is
refused, and otherwise the answer to the return of the engine's call. -/
inductive Makes (s : Session ε) : Operation → Move → Prop
  | spawn (options : SpawnOptions) : Makes s (.spawn options) (.spawn options)
  | called (options : SpawnOptions) (outcome : Except EngineError Unit) :
      Makes s (.spawn options) (.spawnReturns outcome)
  | report (e : EngineEvent) : Makes s (.report e true) (.report e)
  | wait (id : String) (fd : Int) (h : s.tasks.find? id = some (.sinkWritable fd)) :
      Makes s (.poll id) (.seekRoom fd)
  | read (stream : Stream) (max : Option Nat) : Makes s (.read stream max) (.read stream max)
  | kill : Makes s .kill .kill
  | write (bytes : Bytes) (accepted : Bool) : Makes s (.write bytes) (.write bytes accepted)
  | endStdin : Makes s .endStdin .endStdin

theorem owner_answer (s : Session ε) (step : Step ε κ) :
    (s.owner step).2.1 = if s.sandbox.present then step.2.1 else .dropped := by
  rw [owner]
  split <;> rfl

section Moves

variable (link : EngineLink ε κ) (s : Session ε) (inCall : Bool)

-- What each operation answers, so that no proof below opens all the operations at once.
theorem perform_spawn_answer (options : SpawnOptions) :
    (s.perform link (.spawn options)).2.1 =
      if s.sandbox.present then (s.spawn link options).2.1 else .dropped := owner_answer s _

theorem perform_kill_answer : (s.perform link .kill).2.1 =
    if s.sandbox.present then (s.kill link).2.1 else .dropped := owner_answer s _

theorem perform_write_answer (bytes : Bytes) :
    (s.perform link (.write bytes)).2.1 = (s.write link bytes).2.1 := rfl

theorem perform_endStdin_answer :
    (s.perform link .endStdin).2.1 = (s.endStdin link).2.1 := rfl

theorem perform_report_answer (e : EngineEvent) (answered : Bool) :
    (s.perform link (.report e answered)).2.1 = (s.report e answered).2 := rfl

theorem perform_poll_answer (id : String) :
    (s.perform link (.poll id)).2.1 = (s.poll id).2 := rfl

theorem answer_kill : (s.perform link .kill).2.1 = (s.stage inCall).answer .kill := by
  rw [perform_kill_answer, Stage.answer, act, Stage.owner_answer]
  cases hk : s.sandbox.killForwarded with
  | error e => simp only [kill, stage, hk, answer, keep]
  | ok forwarded => cases forwarded <;> simp only [kill, stage, hk, answer]

theorem answer_write (bytes : Bytes) : (s.perform link (.write bytes)).2.1 =
    (s.stage inCall).answer (.write bytes (link.write s bytes).2.1) := by
  rw [perform_write_answer, Stage.answer_write]
  simp only [write, stage]
  cases s.sandbox.checkWrite <;> rfl

theorem answer_endStdin : (s.perform link .endStdin).2.1 = (s.stage inCall).answer .endStdin := by
  rw [perform_endStdin_answer, Stage.answer_endStdin]
  simp only [endStdin, stage]
  cases s.sandbox.endStdin with
  | error e => rfl
  | ok p =>
    obtain ⟨sandbox, asked⟩ := p
    cases asked <;> rfl

theorem answer_report (e : EngineEvent) :
    (s.perform link (.report e true)).2.1 = (s.stage inCall).answer (.report e) := by
  rw [perform_report_answer]
  cases sink : s.asked with
  | false => simp only [report, Stage.answer, act, stage, sink, keep, Bool.not_false, ↓reduceIte]
  | true => simp only [report, Stage.answer, act, stage, sink, Bool.not_true, Bool.false_eq_true,
      ↓reduceIte]

theorem answer_wait {id : String} {fd : Int} (h : s.tasks.find? id = some (.sinkWritable fd)) :
    (s.perform link (.poll id)).2.1 = (s.stage inCall).answer (.seekRoom fd) := by
  rw [perform_poll_answer]
  simp only [poll, h, Stage.answer, act, stage]
  cases s.sandbox.poll (.sinkWritable fd) with
  | mk sandbox found => cases found <;> rfl

theorem answer_spawn_refused {options : SpawnOptions} {e : SandboxError}
    (h : s.sandbox.beginSpawn options = .error e) :
    (s.perform link (.spawn options)).2.1 = (s.stage inCall).answer (.spawn options) := by
  rw [perform_spawn_answer, Stage.answer, act, Stage.owner_answer]
  simp only [spawn, stage, h, answer, keep]

theorem answer_spawn_called {options : SpawnOptions} {sandbox : Sandbox} {request : SpawnRequest}
    (present : s.sandbox.present = true)
    (h : s.sandbox.beginSpawn options = .ok (sandbox, request)) :
    let called := link.spawn { s with sandbox, asked := true } request
    (s.perform link (.spawn options)).2.1 =
      (called.1.stage true).answer (.spawnReturns called.2.1) := by
  rw [perform_spawn_answer, present]
  simp only [spawn, h, ↓reduceIte]
  rfl

theorem answer_spawn_dropped (present : s.sandbox.present = false) (options : SpawnOptions) :
    (s.perform link (.spawn options)).2.1 = (s.stage inCall).answer (.spawn options) := by
  rw [perform_spawn_answer, Stage.answer, act, Stage.owner_answer]
  simp only [stage, present, Bool.false_eq_true, ↓reduceIte]

end Moves

section Link

variable {told : κ → List EngineCall} {fit : ε → Prop} {inCall : Bool} {link : EngineLink ε κ}
  (h : link.Courteous told fit inCall) {s : Session ε} (hf : fit s.engine)
  (hc : (s.stage inCall).Consistent)

include h hf hc

theorem answered_spawn (options : SpawnOptions) : ∃ ms m, s.Makes (.spawn options) m ∧
    (s.perform link (.spawn options)).2.1 = ((s.stage inCall).run ms).answer m := by
  cases present : s.sandbox.present with
  | false => exact ⟨[], _, .spawn options, answer_spawn_dropped link s inCall present options⟩
  | true =>
    cases hb : s.sandbox.beginSpawn options with
    | error e => exact ⟨[], _, .spawn options, answer_spawn_refused link s inCall hb⟩
    | ok p =>
      obtain ⟨sandbox, request⟩ := p
      obtain ⟨⟨ms, hrun, -⟩, -⟩ := leads_called h hf hc present hb
      have hanswer := answer_spawn_called link s present hb
      simp only [← hrun] at hanswer
      exact ⟨ms, _, .called options _, hanswer⟩

/-- An operation gets the answer to a move of a course from here on, and unless it spawns, to a move
made here. -/
theorem answered_perform {op : Operation} (ho : ∃ m, s.Makes op m) : ∃ ms m, s.Makes op m ∧
    (s.perform link op).2.1 = ((s.stage inCall).run ms).answer m ∧
    ((∀ options, op ≠ .spawn options) → ms = []) := by
  obtain ⟨m, ho⟩ := ho
  cases ho with
  | spawn options =>
    obtain ⟨ms, m, hm, hanswer⟩ := answered_spawn h hf hc options
    exact ⟨ms, m, hm, hanswer, fun hne => absurd rfl (hne options)⟩
  | called options =>
    obtain ⟨ms, m, hm, hanswer⟩ := answered_spawn h hf hc options
    exact ⟨ms, m, hm, hanswer, fun hne => absurd rfl (hne options)⟩
  | report e => exact ⟨[], _, .report e, answer_report link s inCall e, fun _ => rfl⟩
  | wait id fd hid => exact ⟨[], _, .wait id fd hid, answer_wait link s inCall hid, fun _ => rfl⟩
  | read stream max => exact ⟨[], _, .read stream max, rfl, fun _ => rfl⟩
  | kill => exact ⟨[], _, .kill, answer_kill link s inCall, fun _ => rfl⟩
  | write bytes =>
    exact ⟨[], _, .write bytes _, answer_write link s inCall bytes, fun _ => rfl⟩
  | endStdin => exact ⟨[], _, .endStdin, answer_endStdin link s inCall, fun _ => rfl⟩

end Link

end Session

/-- What a session's operation is told under a script is what a move is told in a course that brings
about that session. -/
theorem Script.answered_of_run (c : Config) {script : Script} (h : script.Orderly)
    (ops : List Operation) :
    let s := ((Session.ofConfig c { script }).run link ops).1
    ∀ op, (∃ m, s.Makes op m) → ∃ ms ns m, (Stage.ofConfig c).run ms = s.stage false ∧
      s.Makes op m ∧ (s.perform link op).2.1 = ((Stage.ofConfig c).run (ms ++ ns)).answer m ∧
      ((∀ options, op ≠ .spawn options) → ns = []) := by
  intro s op ho
  have hrun := Session.follows_run (s := Session.ofConfig c { script }) link_courteous h
    (Stage.consistent_ofConfig c) ops Bool.noConfusion
  obtain ⟨ms, hms, -⟩ := hrun.leads
  obtain ⟨ns, m, hm, hanswer, hns⟩ := Session.answered_perform link_courteous (hrun.fit h)
    (hrun.leads.consistent (Stage.consistent_ofConfig c)) ho
  refine ⟨ms, ns, m, hms, hm, ?_, hns⟩
  rw [hanswer, Stage.run_append, ← hms]
  rfl

end Confine
