import Confine.Proofs.Sandbox.Calls
import Confine.Proofs.Sandbox.Story

/-!
The child's stdin over a whole course. What the engine takes in is what writers were told was
written, and a writer that is closed stays closed. All writers share one flag, so it does not matter
which of them makes a move.
-/

namespace Confine

open Relation

namespace EngineCall

/-- The bytes that a call brings for stdin. -/
def input? : EngineCall → Option Bytes
  | writeStdin bytes => some bytes
  | _ => none

end EngineCall

namespace Move

/-- Whether the engine takes what the move brings it for stdin. -/
def accepted : Move → Bool
  | .write _ accepted => accepted
  | _ => false

end Move

namespace Lifecycle

theorem isTerminated_iff {state : Lifecycle} :
    state.isTerminated = true ↔ ∃ t, state = terminated t := by
  cases state <;> simp [isTerminated]

/-- There is no way back to before the start. -/
theorem unstarted_of_advances {state state' : Lifecycle} (h : ReflTransGen Advance state state')
    (hs : state' = idle ∨ state' = spawning) : state = idle ∨ state = spawning := by
  induction h with
  | refl => exact hs
  | tail _ hlast ih =>
    apply ih
    cases hlast with
    | spawn => exact .inl rfl
    | start => rcases hs with hs | hs <;> cases hs
    | fail => rcases hs with hs | hs <;> cases hs
    | finish => rcases hs with hs | hs <;> cases hs

end Lifecycle

namespace Sandbox

/-- The sandbox is there, and its child is still to be started. -/
def Unstarted (s : Sandbox) : Prop :=
  s.present = true ∧ (s.state = .idle ∨ s.state = .spawning)

instance (s : Sandbox) : Decidable s.Unstarted := inferInstanceAs (Decidable (_ ∧ _))

theorem stdinClosed_iff {s : Sandbox} : s.stdinClosed = true ↔
    s.stdinEnded = true ∨ s.present = false ∨ ∃ t, s.state = .terminated t := by
  rw [stdinClosed, Bool.or_eq_true, Bool.or_eq_true, Bool.not_eq_true',
    Lifecycle.isTerminated_iff, or_assoc]

/-- A writer meets a closed channel, a child that is still to be started, or a running child whose
stdin nobody has closed. -/
theorem input (s : Sandbox) : s.stdinClosed = true ∨ s.Unstarted ∨
    s.stdinEnded = false ∧ s.present = true ∧ s.state = .running := by
  rw [stdinClosed_iff]
  cases hp : s.present with
  | false => exact .inl (.inr (.inl rfl))
  | true =>
    cases hs : s.state with
    | idle => exact .inr (.inl ⟨hp, .inl hs⟩)
    | spawning => exact .inr (.inl ⟨hp, .inr hs⟩)
    | terminated t => exact .inl (.inr (.inr ⟨t, rfl⟩))
    | running =>
      cases s.stdinEnded with
      | true => exact .inl (.inl rfl)
      | false => exact .inr (.inr ⟨rfl, rfl, rfl⟩)

section Checks

variable {s : Sandbox}

theorem Unstarted.not_running (h : s.Unstarted) : s.state ≠ .running := by
  rcases h.2 with hs | hs <;> rw [hs] <;> exact Lifecycle.noConfusion

theorem Unstarted.checkRunning (h : s.Unstarted) (operation : String) :
    s.checkRunning operation = .error (.invalidState operation s.state) := by
  rcases h.2 with h | h <;> simp only [Sandbox.checkRunning, h]

theorem checkRunning_of_terminated {t : Termination} (h : s.state = .terminated t)
    (operation : String) : s.checkRunning operation = .error .closedChannel := by
  simp only [checkRunning, h]

theorem Linked.checkRunning_of_running (hl : s.Linked) (present : s.present = true)
    (running : s.state = .running) (operation : String) : s.checkRunning operation = .ok () := by
  have hheld := hl.engineHeld
  rw [present, running] at hheld
  simp only [checkRunning, running, hheld, Lifecycle.isTerminated, Bool.not_false, Bool.and_self,
    ↓reduceIte]

theorem checkWrite_of_closed (h : s.stdinClosed = true) :
    s.checkWrite = .error .closedChannel := by
  rw [checkWrite]
  split
  · rfl
  · next hopen =>
    obtain ⟨ended, present⟩ : s.stdinEnded = false ∧ s.present = true := by simpa using hopen
    rcases stdinClosed_iff.mp h with h | h | ⟨t, ht⟩
    · exact absurd (ended.symm.trans h) Bool.noConfusion
    · exact absurd (present.symm.trans h) Bool.noConfusion
    · exact checkRunning_of_terminated ht _

theorem checkWrite_of_unended (ended : s.stdinEnded = false) (present : s.present = true) :
    s.checkWrite = s.checkRunning "write to stdin" := by
  simp only [checkWrite, ended, present, Bool.not_true, Bool.or_self, Bool.false_eq_true,
    ↓reduceIte]

/-- Closing a closed stdin succeeds and asks nothing of the engine. -/
theorem endStdin_of_closed (h : s.stdinClosed = true) : ∃ s', s.endStdin = .ok (s', false) := by
  rw [endStdin]
  split
  · exact ⟨s, rfl⟩
  · next hended =>
    split
    · exact ⟨_, rfl⟩
    · next hpresent =>
      rcases stdinClosed_iff.mp h with h | h | ⟨t, ht⟩
      · exact absurd h hended
      · simp [h] at hpresent
      · rw [checkRunning_of_terminated ht]
        exact ⟨_, rfl⟩

theorem Unstarted.endStdin (h : s.Unstarted) (ended : s.stdinEnded = false) :
    s.endStdin = .error (.invalidState "close stdin" s.state) := by
  simp only [Sandbox.endStdin, ended, h.1, h.checkRunning, Bool.not_true, Bool.false_eq_true,
    ↓reduceIte]

theorem Linked.endStdin_of_running (hl : s.Linked) (ended : s.stdinEnded = false)
    (present : s.present = true) (running : s.state = .running) :
    s.endStdin = .ok ({ s with stdinEnded := true }, true) := by
  simp only [endStdin, ended, present, hl.checkRunning_of_running present running, Bool.not_true,
    Bool.false_eq_true, ↓reduceIte]

end Checks

end Sandbox

namespace Stage

/-- A request to close stdin that succeeds. -/
def closings (w : Stage) : Move → List Unit
  | .endStdin =>
    match w.answer .endStdin with
    | .result (.ok _) => [()]
    | _ => []
  | _ => []

/-- A chunk that its writer is told was written. -/
def written (w : Stage) : Move → List Bytes
  | .write bytes accepted =>
    match w.answer (.write bytes accepted) with
    | .result (.ok _) => [bytes]
    | _ => []
  | _ => []

/-- The chunks for stdin that the engine gets and accepts. -/
def received (w : Stage) (m : Move) : List Bytes :=
  if m.accepted then (w.calls m).filterMap EngineCall.input? else []

theorem answer_write (w : Stage) (bytes : Bytes) (accepted : Bool) :
    w.answer (.write bytes accepted) = .result (w.sandbox.checkWrite.bind fun _ =>
      if accepted then .ok (.count bytes.length) else .error .closedChannel) := by
  simp only [answer, act]
  cases w.sandbox.checkWrite <;> rfl

theorem answer_endStdin (w : Stage) :
    w.answer .endStdin = .result (w.sandbox.endStdin.map fun _ => .nothing) := by
  simp only [answer, act]
  cases w.sandbox.endStdin <;> rfl

theorem calls_write_of_error {w : Stage} {e : SandboxError} (h : w.sandbox.checkWrite = .error e)
    (bytes : Bytes) (accepted : Bool) : w.calls (.write bytes accepted) = [] := by
  simp only [calls, act, h]
  rfl

theorem calls_endStdin_of_error {w : Stage} {e : SandboxError}
    (h : w.sandbox.endStdin = .error e) : w.calls .endStdin = [] := by
  simp only [calls, act, h]
  rfl

theorem closings_of_ne {w : Stage} {m : Move} (h : m ≠ .endStdin) : w.closings m = [] := by
  cases m with
  | endStdin => exact absurd rfl h
  | _ => rfl

theorem next_endStdin_of_error {w : Stage} {e : SandboxError} (h : w.sandbox.endStdin = .error e) :
    w.next .endStdin = w := by
  simp only [next, act, h]
  rfl

/-- A request to close stdin succeeds exactly if stdin is closed afterwards. -/
theorem stdinEnded_endStdin (w : Stage) :
    (w.next .endStdin).sandbox.stdinEnded = true ↔
      w.sandbox.stdinEnded = true ∨ w.closings .endStdin ≠ [] := by
  rw [closings, answer_endStdin]
  cases he : w.sandbox.endStdin with
  | ok p =>
    obtain ⟨s', asked⟩ := p
    rw [next_endStdin he, Sandbox.endStdin_sandbox he]
    simp [Except.map]
  | error e =>
    rw [next_endStdin_of_error he]
    simp [Except.map]

/-- Stdin counts as closed if and only if a request to close it has succeeded, and none can while
the child is still to be started. -/
structure Closings (w : Stage) (closings : List Unit) : Prop where
  ended_iff : w.sandbox.stdinEnded = true ↔ closings ≠ []
  unstarted : w.sandbox.Unstarted → w.sandbox.stdinEnded = false

theorem Closings.next {w : Stage} {past : List Unit} (h : w.Closings past) (hw : w.Consistent)
    (m : Move) : (w.next m).Closings (past ++ w.closings m) where
  ended_iff := by
    rw [ne_eq, List.append_eq_nil_iff, Decidable.not_and_iff_not_or_not]
    by_cases hm : m = .endStdin
    · subst hm
      rw [stdinEnded_endStdin, h.ended_iff]
    · rw [stdinEnded_next_of_ne hm, h.ended_iff, closings_of_ne hm]
      simp
  unstarted := by
    -- What is still to be started was so before the move, too.
    intro hnext
    have ht := w.turn m
    have hstate := Lifecycle.unstarted_of_advances (ht.advances hw) hnext.2
    have hunstarted : w.sandbox.Unstarted := ⟨ht.present hnext.1, hstate⟩
    have ended := h.unstarted hunstarted
    by_cases hm : m = .endStdin
    · subst hm
      rw [next_endStdin_of_error (hunstarted.endStdin ended)]
      exact ended
    · exact (stdinEnded_next_of_ne hm).trans ended

theorem Closings.unended {w : Stage} {past : List Unit} (h : w.Closings past) (hp : past = []) :
    w.sandbox.stdinEnded = false := by
  cases he : w.sandbox.stdinEnded with
  | false => rfl
  | true => exact absurd hp (h.ended_iff.mp he)

theorem Closings.nil_of_unended {w : Stage} {past : List Unit} (h : w.Closings past)
    (ended : w.sandbox.stdinEnded = false) : past = [] := by
  cases past with
  | nil => rfl
  | cons u past =>
    have hended := h.ended_iff.mpr (List.cons_ne_nil u past)
    exact absurd (ended.symm.trans hended) Bool.noConfusion

theorem closings_run (c : Config) (ms : List Move) :
    ((ofConfig c).run ms).Closings ((ofConfig c).gather closings ms) := by
  refine run_induction (P := fun ms w => w.Closings ((ofConfig c).gather closings ms))
    (ofConfig c) ?_ (fun ms m h => ?_) ms
  · exact ⟨⟨fun h => Bool.noConfusion h, fun h => absurd rfl h⟩, fun _ => rfl⟩
  · rw [gather_concat]
    exact h.next (consistent_run c ms) m

/-- A chunk goes to the engine if and only if its writer learns whether the engine takes it. -/
theorem received_eq_written (w : Stage) (m : Move) : w.received m = w.written m := by
  cases m with
  | write bytes accepted =>
    rw [received, written, answer_write]
    cases hc : w.sandbox.checkWrite with
    | error e =>
      rw [calls_write_of_error hc]
      cases accepted <;> rfl
    | ok u =>
      rw [calls_write_of_checked hc]
      cases accepted <;> rfl
  | _ => rfl

theorem stdinClosed_next {w : Stage} (hw : w.Consistent) (h : w.sandbox.stdinClosed = true)
    (m : Move) : (w.next m).sandbox.stdinClosed = true := by
  have ht := w.turn m
  rw [Sandbox.stdinClosed_iff] at h ⊢
  rcases h with h | h | ⟨t, h⟩
  · exact .inl (stdinEnded_next h m)
  · right; left
    cases hp : (w.next m).sandbox.present with
    | false => rfl
    | true => exact absurd (h.symm.trans (ht.present hp)) Bool.noConfusion
  · have hforward := ht.advances hw
    rw [h] at hforward
    exact .inr (.inr ⟨t, Lifecycle.terminated_of_advances hforward⟩)

theorem stdinClosed_run {w : Stage} (hw : w.Consistent) (h : w.sandbox.stdinClosed = true)
    (ns : List Move) : (w.run ns).sandbox.stdinClosed = true := by
  induction ns generalizing w with
  | nil => exact h
  | cons m ns ih => exact ih (hw.turn (w.turn m)) (stdinClosed_next hw h m)

section Closed

variable {w : Stage} (h : w.sandbox.stdinClosed = true)

include h

theorem write_of_closed (bytes : Bytes) (accepted : Bool) :
    w.answer (.write bytes accepted) = .result (.error .closedChannel) ∧
      w.calls (.write bytes accepted) = [] := by
  have hcheck := Sandbox.checkWrite_of_closed h
  rw [answer_write, hcheck]
  exact ⟨rfl, calls_write_of_error hcheck bytes accepted⟩

theorem endStdin_of_closed :
    w.answer .endStdin = .result (.ok .nothing) ∧ w.calls .endStdin = [] := by
  obtain ⟨s', he⟩ := Sandbox.endStdin_of_closed h
  rw [answer_endStdin, calls_endStdin he, he]
  exact ⟨rfl, rfl⟩

end Closed

section Unstarted

variable {w : Stage} (h : w.sandbox.Unstarted) (ended : w.sandbox.stdinEnded = false)

include h ended

theorem write_of_unstarted (bytes : Bytes) (accepted : Bool) :
    w.answer (.write bytes accepted) =
        .result (.error (.invalidState "write to stdin" w.sandbox.state)) ∧
      w.calls (.write bytes accepted) = [] := by
  have hcheck := (Sandbox.checkWrite_of_unended ended h.1).trans (h.checkRunning _)
  rw [answer_write, hcheck]
  exact ⟨rfl, calls_write_of_error hcheck bytes accepted⟩

theorem endStdin_of_unstarted :
    w.answer .endStdin = .result (.error (.invalidState "close stdin" w.sandbox.state)) ∧
      w.calls .endStdin = [] ∧ w.next .endStdin = w := by
  have he := h.endStdin ended
  rw [answer_endStdin, he]
  exact ⟨rfl, calls_endStdin_of_error he, next_endStdin_of_error he⟩

end Unstarted

section Running

variable {w : Stage} (hw : w.Consistent) (ended : w.sandbox.stdinEnded = false)
  (present : w.sandbox.present = true) (running : w.sandbox.state = .running)

include hw ended present running

theorem write_of_running (bytes : Bytes) (accepted : Bool) :
    w.answer (.write bytes accepted) =
        .result (if accepted then .ok (.count bytes.length) else .error .closedChannel) ∧
      w.calls (.write bytes accepted) = [.writeStdin bytes] := by
  have hrunning := hw.linked.checkRunning_of_running present running "write to stdin"
  have hcheck := (Sandbox.checkWrite_of_unended ended present).trans hrunning
  rw [answer_write, hcheck]
  exact ⟨rfl, calls_write_of_checked hcheck bytes accepted⟩

theorem endStdin_of_running :
    w.answer .endStdin = .result (.ok .nothing) ∧ w.calls .endStdin = [.closeStdin] := by
  have he := hw.linked.endStdin_of_running ended present running
  rw [answer_endStdin, calls_endStdin he, he]
  exact ⟨rfl, rfl⟩

end Running

/-- Stdin is closed unless the child is still to be started, or runs and nobody has closed its
stdin. -/
theorem Closings.stdinClosed_iff {w : Stage} {past : List Unit} (h : w.Closings past) :
    w.sandbox.stdinClosed = true ↔ ¬w.sandbox.Unstarted ∧
      ¬(w.sandbox.present = true ∧ w.sandbox.state = .running ∧ past = []) := by
  constructor
  · intro hclosed
    rw [Sandbox.stdinClosed_iff] at hclosed
    refine ⟨fun hunstarted => ?_, fun ⟨present, running, unended⟩ => ?_⟩
    · rcases hclosed with hc | hc | ⟨t, hc⟩
      · exact absurd ((h.unstarted hunstarted).symm.trans hc) Bool.noConfusion
      · exact absurd (hunstarted.1.symm.trans hc) Bool.noConfusion
      · rcases hunstarted.2 with hs | hs <;> exact absurd (hs.symm.trans hc) Lifecycle.noConfusion
    · rcases hclosed with hc | hc | ⟨t, hc⟩
      · exact h.ended_iff.mp hc unended
      · exact absurd (present.symm.trans hc) Bool.noConfusion
      · exact absurd (running.symm.trans hc) Lifecycle.noConfusion
  · rintro ⟨hunstarted, hopen⟩
    rcases w.sandbox.input with hclosed | hu | ⟨ended, present, running⟩
    · exact hclosed
    · exact absurd hu hunstarted
    · exact absurd ⟨present, running, h.nil_of_unended ended⟩ hopen

/-- What an engine takes over a course is what its writers are told was written. -/
theorem gather_received (w : Stage) (ms : List Move) : w.gather received ms = w.gather written ms :=
  congrArg (w.gather · ms) (funext fun w => funext w.received_eq_written)

/-- A write goes to the engine of a running child whose stdin nobody has closed, and succeeds if
that engine takes it; what engines take is what was written. A closed writer stays closed: writes to
it fail, and closing it again succeeds and does not reach the engine. Closing it before the start
fails and leaves it open, so that it can be closed later. -/
theorem stdin_delivered (c : Config) (ms : List Move) :
    let w := (ofConfig c).run ms
    let s := w.sandbox
    let ends := (ofConfig c).gather closings ms
    (∀ bytes accepted,
      w.answer (.write bytes accepted) = .result (
        if s.present = true ∧ s.state = .running ∧ ends = [] ∧ accepted = true then
          .ok (.count bytes.length)
        else if s.Unstarted then .error (.invalidState "write to stdin" s.state)
        else .error .closedChannel) ∧
      w.calls (.write bytes accepted) =
        if s.present = true ∧ s.state = .running ∧ ends = [] then [.writeStdin bytes] else []) ∧
    (ofConfig c).gather received ms = (ofConfig c).gather written ms ∧
    (s.stdinClosed = true ↔ ends ≠ [] ∨ s.present = false ∨ ∃ t, s.state = .terminated t) ∧
    (s.stdinClosed = true → ∀ ns,
      let w' := w.run ns
      w'.sandbox.stdinClosed = true ∧
      (∀ bytes accepted, w'.answer (.write bytes accepted) = .result (.error .closedChannel)) ∧
      w'.answer .endStdin = .result (.ok .nothing) ∧ w'.calls .endStdin = []) ∧
    w.answer .endStdin = .result (
      if s.Unstarted then .error (.invalidState "close stdin" s.state) else .ok .nothing) ∧
    (s.Unstarted → s.stdinClosed = false ∧ w.next .endStdin = w ∧ ∀ ns,
      let w' := w.run ns
      w'.sandbox.present = true → w'.sandbox.state = .running → w.gather closings ns = [] →
        w'.calls .endStdin = [.closeStdin]) := by
  intro w s ends
  have hw : w.Consistent := consistent_run c ms
  have hends : w.Closings ends := closings_run c ms
  refine ⟨fun bytes accepted => ?write, gather_received _ ms, ?closed, fun hclosed ns => ?stays,
    ?close, fun hunstarted => ⟨?opened, ?kept, fun ns => ?later⟩⟩
  case write =>
    by_cases hu : s.Unstarted
    · have hnot : s.state ≠ .running := hu.not_running
      rw [if_neg fun h => hnot h.2.1, if_pos hu, if_neg fun h => hnot h.2.1]
      exact write_of_unstarted hu (hends.unstarted hu) bytes accepted
    · rw [if_neg hu]
      by_cases ho : s.present = true ∧ s.state = .running ∧ ends = []
      · obtain ⟨hanswer, hcalls⟩ :=
          write_of_running hw (hends.unended ho.2.2) ho.1 ho.2.1 bytes accepted
        rw [if_pos ho, hanswer]
        refine ⟨?_, hcalls⟩
        cases accepted <;> simp [ho]
      · rw [if_neg fun h => ho ⟨h.1, h.2.1, h.2.2.1⟩, if_neg ho]
        exact write_of_closed (hends.stdinClosed_iff.mpr ⟨hu, ho⟩) bytes accepted
  case closed =>
    rw [Sandbox.stdinClosed_iff, hends.ended_iff]
  case stays =>
    have h := stdinClosed_run hw hclosed ns
    exact ⟨h, fun bytes accepted => (write_of_closed h bytes accepted).1, endStdin_of_closed h⟩
  case close =>
    by_cases hu : s.Unstarted
    · rw [if_pos hu]
      exact (endStdin_of_unstarted hu (hends.unstarted hu)).1
    · rw [if_neg hu]
      by_cases ho : s.present = true ∧ s.state = .running ∧ ends = []
      · exact (endStdin_of_running hw (hends.unended ho.2.2) ho.1 ho.2.1).1
      · exact (endStdin_of_closed (hends.stdinClosed_iff.mpr ⟨hu, ho⟩)).1
  case opened =>
    cases hc : s.stdinClosed with
    | false => rfl
    | true => exact absurd hunstarted (hends.stdinClosed_iff.mp hc).1
  case kept =>
    exact (endStdin_of_unstarted hunstarted (hends.unstarted hunstarted)).2.2
  case later =>
    intro w' present running hns
    -- No request succeeded before the start either, so this is the first of the whole course.
    have hnone : ends = [] := hends.nil_of_unended (hends.unstarted hunstarted)
    have hall : (ofConfig c).gather closings (ms ++ ns) = [] := by
      rw [gather_append, hns, List.append_nil]
      exact hnone
    have hrun : (ofConfig c).run (ms ++ ns) = w' := run_append (ofConfig c) ms ns
    have hw' := consistent_run c (ms ++ ns)
    have hends' := closings_run c (ms ++ ns)
    rw [hrun] at hw' hends'
    exact (endStdin_of_running hw' (hends'.unended hall) present running).2

/-- A request to close stdin before the spawn is refused; one after it reaches the engine, and from
then on nothing does. -/
example :
    let w := (ofConfig {}).run
      [.endStdin, .spawn { program := "cat" }, .spawnReturns (.ok ()), .write [1, 2] true]
    w.calls .endStdin = [.closeStdin] ∧
      (w.next .endStdin).calls (.write [3] true) = [] ∧ (w.next .endStdin).calls .endStdin = [] ∧
      (ofConfig {}).gather received
        [.endStdin, .spawn { program := "cat" }, .spawnReturns (.ok ()), .write [1, 2] true,
          .write [3] false, .write [4] true] = [[1, 2], [4]] := by
  decide +kernel

end Stage

end Confine
