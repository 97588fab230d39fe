import Confine.Native.Engine
import Confine.Proofs.Native.Watch

/-!
The tasks around a process of the host take the steps of a scene, so that whatever holds for all
orders of steps holds for the order in which the native engine runs them.
-/

namespace Confine

open Relation

namespace Scene

/-- Some steps of a scene bring its tasks and its sandbox to where they are. -/
def LeadsTo (limits : Limits) (w : Scene) (tasks : Supervision) (s : Sandbox) : Prop :=
  ∃ w', ReflTransGen (Step limits) w w' ∧ w'.tasks = tasks ∧ w'.stage.sandbox = s

variable {c : Config} {limits : Limits} {w : Scene}

theorem LeadsTo.head {w' : Scene} {tasks : Supervision} {s : Sandbox}
    (h : ReflTransGen (Step limits) w w') (h' : w'.LeadsTo limits tasks s) :
    w.LeadsTo limits tasks s := by
  obtain ⟨w'', hw'', hq⟩ := h'
  exact ⟨w'', h.trans hw'', hq⟩

/-- A poll of a finished pump is no poll. -/
theorem Sound.poll_eq (h : w.Sound c) (stream : Stream) :
    w.tasks.poll stream w.stage.sandbox =
      ((w.polled stream).tasks, (w.polled stream).stage.sandbox) := by
  rw [Supervision.poll]
  split
  · next hf =>
    have hsame : w.tasks.setPump stream (w.tasks.pump stream) = w.tasks := by
      cases stream <;> rfl
    simp only [Scene.polled, Scene.pumped, goOn, Pump.poll_of_finished (h.fd stream) hf, hsame]
  · rfl

/-- A pipe from which a pump still reads is not hung up as far as it is empty. -/
theorem Sound.open_of_reading (h : w.Sound c) {stream : Stream}
    (hr : ((w.polled stream).tasks.pump stream).phase = .reading) :
    .endOfStream ∉ (w.polled stream).sent stream := by
  have hpolled := h.polled stream
  have hpump : (w.polled stream).tasks.pump stream =
      ((w.tasks.pump stream).poll w.tasks.reaped w.stage.sandbox).1 :=
    Supervision.pump_setPump _ _ _
  intro hmem
  have hbeyond := (hpolled.copied stream).beyond
  have hunfinished : ((w.polled stream).tasks.pump stream).phase ≠ .finished := by
    rw [hr]
    exact PumpPhase.noConfusion
  rw [Pump.beyond?_of_not_finished hunfinished,
    (hpolled.piped stream).pastEnd?_hungUp hmem] at hbeyond
  rw [hpump] at hr hbeyond
  rw [Pump.pipe_of_poll_reading (h.fd stream) hr] at hbeyond
  cases hbeyond

end Scene

namespace Child

variable {c : Config} (limits : Limits)

/-- A pump gets what the host's pipe holds when it reads, so to the scene the bytes come in then. -/
theorem relay_leads (stream : Stream) (n : Nat) {w : Scene} (hw : w.Sound c) {child : Child}
    (ht : child.tasks = w.tasks) :
    w.LeadsTo limits (relay stream n child w.stage.sandbox).1.tasks
      (relay stream n child w.stage.sandbox).2 := by
  induction n generalizing w child with
  | zero => exact ⟨w, .refl, ht.symm, rfl⟩
  | succ n ih =>
    have hpoll : ReflTransGen (Scene.Step limits) w (w.polled stream) :=
      Scene.steps_polled limits w (hw.fd stream)
    have hw' := hw.polled stream
    rw [relay, ht, hw.poll_eq stream]
    simp only
    split
    · exact ⟨w.polled stream, hpoll, rfl, rfl⟩
    · next hreading =>
      have hopen := hw.open_of_reading (Decidable.not_not.mp hreading)
      split
      · split
        -- The pipe is empty, and somebody can still write to it.
        · exact ⟨w.polled stream, hpoll, rfl, rfl⟩
        · have hstep : Scene.Step limits (w.polled stream) _ := .hangUp stream hopen
          exact (ih (hw'.step hstep) rfl).head (hpoll.tail hstep)
      · next hne =>
        have hbytes : (child.machine.content (hostPipe stream)).take Pump.readSize ≠ [] := by
          rw [ne_eq, List.take_eq_nil_iff]
          exact not_or.mpr ⟨Nat.succ_ne_zero _, hne⟩
        have hstep : Scene.Step limits (w.polled stream) _ := .write stream _ hbytes hopen
        exact (ih (hw'.step hstep) rfl).head (hpoll.tail hstep)

theorem runTasks_leads {w : Scene} (hw : w.Sound c) {child : Child} (ht : child.tasks = w.tasks) :
    w.LeadsTo limits (child.runTasks w.stage.sandbox).1.tasks
      (child.runTasks w.stage.sandbox).2 := by
  obtain ⟨w₁, h₁, htasks₁, hsandbox₁⟩ := relay_leads limits .stdout readsOfPipe hw ht
  have hw₁ := hw.steps h₁
  rw [runTasks]
  generalize relay .stdout readsOfPipe child w.stage.sandbox = q₁ at htasks₁ hsandbox₁
  obtain ⟨child₁, s₁⟩ := q₁
  obtain ⟨w₂, h₂, htasks₂, hsandbox₂⟩ :=
    relay_leads limits .stderr readsOfPipe hw₁ htasks₁.symm
  simp only at hsandbox₁
  subst hsandbox₁
  simp only
  generalize relay .stderr readsOfPipe child₁ w₁.stage.sandbox = q₂ at htasks₂ hsandbox₂
  obtain ⟨child₂, s₂⟩ := q₂
  simp only at htasks₂ hsandbox₂
  subst hsandbox₂
  rw [← htasks₂]
  exact ⟨w₂.report, (h₁.trans h₂).tail .report, rfl, rfl⟩

theorem writeChunk_tasks (child : Child) (chunk : Bytes) :
    (child.writeChunk chunk).1.tasks = child.tasks := by
  rw [writeChunk]
  simp only
  split
  · rfl
  · split <;> rfl

theorem writeStdin_tasks (chunks : List Bytes) (child : Child) :
    (writeStdin chunks child).tasks = child.tasks := by
  induction chunks generalizing child with
  | nil => rfl
  | cons chunk chunks ih =>
    rw [writeStdin]
    split
    · simp only
      split
      · rw [ih, writeChunk_tasks]
      · exact child.writeChunk_tasks chunk
    · rfl

theorem closeStdin_tasks (child : Child) : child.closeStdin.tasks = child.tasks := by
  rw [closeStdin]
  split <;> rfl

theorem expire_tasks (child : Child) : child.expire.tasks = child.tasks := by
  rw [expire]
  split <;> rfl

/-- The child's end comes to the watch as it does in a scene. -/
theorem reap_leads {w : Scene} {child : Child} (ht : child.tasks = w.tasks) :
    w.LeadsTo limits child.reap.tasks w.stage.sandbox := by
  rw [reap]
  split
  · exact ⟨w, .refl, ht.symm, rfl⟩
  · next raw _ =>
    have hends : Scene.Step limits w _ := .ends (some raw)
    refine ⟨_, (ReflTransGen.single hends).tail .reap, ?_, rfl⟩
    rw [ht]
    rfl

/-- When a child of the host goes on with its tasks, it takes them through steps of the scene. -/
theorem advance_leads {w : Scene} (hw : w.Sound c) {child child' : Child} {s' : Sandbox}
    (ht : child.tasks = w.tasks) (h : child.advance w.stage.sandbox = some (child', s')) :
    w.LeadsTo limits child'.tasks s' := by
  rw [advance] at h
  split at h
  · cases h
  · obtain ⟨machine, -, hrun⟩ := Option.map_eq_some_iff.mp h
    let ready : Child := { (writeStdin child.stdin.queued child).closeStdin with machine }
    have hready : ready.tasks = w.tasks :=
      (closeStdin_tasks _).trans ((writeStdin_tasks child.stdin.queued child).trans ht)
    obtain ⟨w₁, h₁, htasks₁, hsandbox₁⟩ := reap_leads limits (ready.expire_tasks.trans hready)
    have hleads := runTasks_leads limits (hw.steps h₁) htasks₁.symm
    rw [hsandbox₁, hrun] at hleads
    exact hleads.head h₁

end Child

end Confine
