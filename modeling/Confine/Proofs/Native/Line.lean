import Confine.Proofs.Native.Stdin

/-!
The standard input of a native engine. The operations of the engine are steps of its line, and
whenever its child goes on, the task takes some, so that what holds of all runs of a line holds of
what an engine goes through.
-/

namespace Confine

open StdinLine

namespace StdinLine

variable {l l' l'' : StdinLine}

theorem Steps.trans {es es' : List Event} (h : Steps l es l') (h' : Steps l' es' l'') :
    Steps l (es ++ es') l'' := by
  induction h' with
  | refl => exact (List.append_nil es).symm ▸ h
  | tail _ hs ih => exact (List.append_assoc es _ _) ▸ ih.tail hs

/-- Some steps of the task. -/
def TaskSteps (l l' : StdinLine) : Prop :=
  ∃ es, Steps l es l' ∧ ∀ e ∈ es, e.byTask = true

theorem TaskSteps.refl (l : StdinLine) : TaskSteps l l :=
  ⟨[], .refl, fun _ he => absurd he List.not_mem_nil⟩

theorem TaskSteps.trans (h : TaskSteps l l') (h' : TaskSteps l' l'') : TaskSteps l l'' := by
  obtain ⟨es, hes, ht⟩ := h
  obtain ⟨es', hes', ht'⟩ := h'
  refine ⟨es ++ es', hes.trans hes', fun e he => ?_⟩
  obtain he | he := List.mem_append.mp he
  · exact ht e he
  · exact ht' e he

theorem Step.taskSteps {e : Event} (h : Step l e l') (ht : e.byTask = true) : TaskSteps l l' :=
  ⟨[e], Steps.refl.tail h, fun _ he => List.mem_singleton.mp he ▸ ht⟩

end StdinLine

namespace Child

variable (used : Bool)

/-- The line into a child. -/
def line (c : Child) : StdinLine :=
  { used, started := true, queue := c.stdin, sent := c.sent }

/-- The task puts a part of a chunk into the pipe, which may be none of it. -/
theorem taskSteps_put {l : StdinLine} {chunk part : Bytes} {rest : List Bytes}
    (ho : l.queue.pipe = .open) (hq : l.queue.queued = chunk :: rest)
    (hp : part <+: chunk.drop l.sent) : TaskSteps l { l with sent := l.sent + part.length } := by
  by_cases hne : part = []
  · rw [hne]
    exact .refl l
  · exact (Step.put part ho hq hp hne).taskSteps rfl

theorem writeChunk_line {c : Child} {chunk : Bytes} {rest : List Bytes}
    (ho : c.stdin.pipe = .open) (hq : c.stdin.queued = chunk :: rest)
    (hfits : c.sent ≤ chunk.length) :
    TaskSteps (c.line used) ((c.writeChunk chunk).1.line used) ∧
      ((c.writeChunk chunk).2 = true →
        (c.writeChunk chunk).1.stdin.queued = rest ∧ (c.writeChunk chunk).1.sent = 0) := by
  rw [writeChunk]
  have hrest : c.stdin.queued.drop 1 = rest := by rw [hq]; rfl
  simp only [hrest]
  split
  · next hfails =>
    rw [Bool.and_eq_true, decide_eq_true_eq] at hfails
    have hlt : c.sent < chunk.length :=
      Nat.not_le.mp fun hle => hfails.1 (List.drop_eq_nil_iff.mpr hle)
    exact ⟨(Step.fail (l := c.line used) ho hq hlt).taskSteps rfl, fun _ => ⟨rfl, rfl⟩⟩
  · have hput := taskSteps_put (l := c.line used) ho hq
      (List.take_prefix c.machine.inputRoom (chunk.drop c.sent))
    split
    · next hall =>
      have hsent :
          c.sent + ((chunk.drop c.sent).take c.machine.inputRoom).length = chunk.length := by
        rw [hall, List.length_drop]
        omega
      have hcomplete := Step.complete (l := { c.line used with sent := _ }) ho hq hsent
      exact ⟨hput.trans (hcomplete.taskSteps rfl), fun _ => ⟨rfl, rfl⟩⟩
    · exact ⟨hput, fun ht => Bool.noConfusion ht⟩

theorem writeStdin_line (chunks : List Bytes) {c : Child} (hq : c.stdin.queued = chunks)
    (hfits : c.sent ≤ (chunks.headD []).length) :
    TaskSteps (c.line used) ((writeStdin chunks c).line used) := by
  induction chunks generalizing c with
  | nil => exact .refl _
  | cons chunk rest ih =>
    rw [writeStdin]
    split
    · next ho =>
      obtain ⟨hsteps, hthrough⟩ := writeChunk_line used ho hq hfits
      simp only
      split
      · next ht =>
        obtain ⟨hrest, hsent⟩ := hthrough ht
        exact hsteps.trans (ih hrest (hsent ▸ Nat.zero_le _))
      · exact hsteps
    · exact .refl _

theorem closeStdin_line (c : Child) : TaskSteps (c.line used) (c.closeStdin.line used) := by
  rw [closeStdin]
  split
  · next h =>
    rw [Bool.and_eq_true, Bool.and_eq_true, decide_eq_true_eq, List.isEmpty_iff,
      Bool.not_eq_true'] at h
    exact (Step.finish (l := c.line used) rfl h.1.1 h.1.2 h.2).taskSteps rfl
  · exact .refl _

theorem relay_line (stream : Stream) (n : Nat) (c : Child) (s : Sandbox) :
    (relay stream n c s).1.line used = c.line used := by
  induction n generalizing c s with
  | zero => rfl
  | succ n ih =>
    rw [relay]
    simp only
    split
    · rfl
    · split
      · split
        · rfl
        · rw [ih]
          rfl
      · rw [ih]
        rfl

theorem runTasks_line (c : Child) (s : Sandbox) : (c.runTasks s).1.line used = c.line used := by
  rw [runTasks]
  exact (relay_line used .stderr readsOfPipe _ _).trans (relay_line used .stdout readsOfPipe c s)

theorem reap_line (c : Child) : c.reap.line used = c.line used := by
  rw [reap]
  split <;> rfl

theorem expire_line (c : Child) : c.expire.line used = c.line used := by
  rw [expire]
  split <;> rfl

theorem advance_line {c c' : Child} {s s' : Sandbox} (h : c.advance s = some (c', s'))
    (hfits : c.sent ≤ (c.stdin.queued.headD []).length) :
    TaskSteps (c.line used) (c'.line used) := by
  rw [advance] at h
  split at h
  · cases h
  · obtain ⟨machine, -, hrun⟩ := Option.map_eq_some_iff.mp h
    let ready : Child := { (writeStdin c.stdin.queued c).closeStdin with machine }
    have hready : c'.line used = ready.line used := by
      rw [← runTasks_line used ready.expire.reap s |>.trans (reap_line used _) |>.trans
        (expire_line used _), hrun]
    rw [hready]
    exact (writeStdin_line used c.stdin.queued rfl hfits).trans (closeStdin_line used _)

end Child

namespace NativeEngine

/-- The line of an engine. -/
def line (e : NativeEngine) : StdinLine :=
  match e.child with
  | none => { used := e.used }
  | some child => child.line e.used

/-- What an engine went through, as far as the standard input of its child is concerned. -/
def Ran (es : List Event) (e : NativeEngine) : Prop := Steps {} es e.line

variable {e : NativeEngine} {es : List Event}

@[simp]
theorem line_used (e : NativeEngine) : e.line.used = e.used := by
  rw [line]
  split <;> rfl

@[simp]
theorem line_released (e : NativeEngine) : e.line.released = false := by
  rw [line]
  split <;> rfl

theorem line_of_none (h : e.child = none) : e.line = { used := e.used } := by
  rw [line, h]

theorem line_of_child {c : Child} (h : e.child = some c) : e.line = c.line e.used := by
  rw [line, h]

theorem start_line {mapping : PathMapping} {request : SpawnRequest} {c : Child}
    (h : e.start mapping request = .ok c) (used : Bool) :
    c.line used = { used, started := true, queue := .opened } := by
  simp only [start, bind, Except.bind, pure, Except.pure] at h
  split at h
  · cases h
  · split at h
    · cases h
    · cases h
      rfl

theorem ran_new (limits : Limits) (context : HostContext) (hasRuntime : Bool) :
    Ran [] { limits, context, hasRuntime } :=
  .refl

/-- An engine starts a child, fails to start it, or refuses to try. -/
theorem Ran.spawn (h : e.Ran es) (mapping : PathMapping) (request : SpawnRequest) :
    ((e.spawn mapping request).1.Ran (es ++ [.spawn]) ∧ (e.spawn mapping request).2 = .ok ()) ∨
      ((e.spawn mapping request).1.Ran (es ++ [.spawnFails]) ∨
        (e.spawn mapping request).1 = e) ∧ (e.spawn mapping request).2 ≠ .ok () := by
  rw [NativeEngine.spawn]
  split
  · exact .inr ⟨.inr rfl, nofun⟩
  · split
    · exact .inr ⟨.inr rfl, nofun⟩
    · next hu =>
      have hused : e.line.used = false := by simpa using hu
      split
      · next child hstart =>
        have hs := Steps.tail h (.spawn hused e.line_released)
        rw [line_released, ← start_line hstart] at hs
        exact .inl ⟨hs, rfl⟩
      · have hs := Steps.tail h (.spawnFails hused e.line_released)
        refine .inr ⟨.inl ?_, nofun⟩
        cases hc : e.child with
        | none =>
          rw [line_of_none hc] at hs
          exact hs
        | some child =>
          rw [line_of_child hc] at hs
          exact hs

theorem Ran.write (h : e.Ran es) (bytes : Bytes) :
    (e.write bytes).1.Ran (es ++ [.write bytes (e.write bytes).2]) := by
  have hs := Steps.tail h (.write bytes e.line_released)
  rw [NativeEngine.write]
  split
  · next hc =>
    rw [line_of_none hc] at hs
    rw [Ran, line_of_none hc]
    exact hs
  · next child hc =>
    rw [line_of_child hc] at hs
    exact hs

theorem Ran.close (h : e.Ran es) : e.close.Ran (es ++ [.close]) := by
  have hs := Steps.tail h (.close e.line_released)
  rw [NativeEngine.close]
  cases hc : e.child with
  | none =>
    rw [line_of_none hc] at hs
    exact hs
  | some child =>
    rw [line_of_child hc] at hs
    exact hs

theorem Ran.kill (h : e.Ran es) : e.kill.Ran es := by
  rw [NativeEngine.kill]
  cases hc : e.child with
  | none =>
    rw [Ran, line_of_none hc] at h
    exact h
  | some child =>
    rw [Ran, line_of_child hc] at h
    exact h

/-- Whenever the child goes on, the task takes some steps. -/
theorem Ran.advance {s s' : Session NativeEngine} (h : s.engine.Ran es)
    (ha : advance s = some s') :
    ∃ es', s'.engine.Ran (es ++ es') ∧ ∀ e ∈ es', e.byTask = true := by
  obtain ⟨child, hc, ha⟩ := Option.bind_eq_some_iff.mp ha
  obtain ⟨⟨child', sandbox⟩, hadvance, rfl⟩ := Option.map_eq_some_iff.mp ha
  have hfits := h.kept.2.1.fits
  rw [Ran, line_of_child hc] at h
  rw [line_of_child hc] at hfits
  obtain ⟨es', hes', ht⟩ := Child.advance_line s.engine.used hadvance hfits
  exact ⟨es', h.trans hes', ht⟩

/-- An engine to which any operations were applied, with its child going on in between. -/
inductive Reached : NativeEngine → Prop
  | new (limits : Limits) (context : HostContext) (hasRuntime : Bool) :
      Reached { limits, context, hasRuntime }
  | spawn {e : NativeEngine} (h : Reached e) (mapping : PathMapping) (request : SpawnRequest) :
      Reached (e.spawn mapping request).1
  | write {e : NativeEngine} (h : Reached e) (bytes : Bytes) : Reached (e.write bytes).1
  | close {e : NativeEngine} (h : Reached e) : Reached e.close
  | kill {e : NativeEngine} (h : Reached e) : Reached e.kill
  | advance {s s' : Session NativeEngine} (h : Reached s.engine) (ha : advance s = some s') :
      Reached s'.engine

/-- Whatever an engine goes through is a run of its line. -/
theorem Reached.ran (h : e.Reached) : ∃ es, e.Ran es := by
  induction h with
  | new limits context hasRuntime => exact ⟨[], ran_new limits context hasRuntime⟩
  | spawn _ mapping request ih =>
    obtain ⟨es, hran⟩ := ih
    obtain ⟨hran, -⟩ | ⟨hran | heq, -⟩ := hran.spawn mapping request
    · exact ⟨_, hran⟩
    · exact ⟨_, hran⟩
    · rw [heq]
      exact ⟨es, hran⟩
  | write _ bytes ih =>
    obtain ⟨es, hran⟩ := ih
    exact ⟨_, hran.write bytes⟩
  | close _ ih =>
    obtain ⟨es, hran⟩ := ih
    exact ⟨_, hran.close⟩
  | kill _ ih =>
    obtain ⟨es, hran⟩ := ih
    exact ⟨es, hran.kill⟩
  | advance _ ha ih =>
    obtain ⟨es, hran⟩ := ih
    obtain ⟨es', hran', -⟩ := hran.advance ha
    exact ⟨_, hran'⟩

end NativeEngine

end Confine
