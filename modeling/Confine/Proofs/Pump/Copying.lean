import Confine.Proofs.Pump.Turn
import Confine.Proofs.Sandbox.Postponement

/-!
A pump at work on one pipe, from its start through any steps. What came into the pipe so far is what
was handed to the sink and what is still due. The sandbox is where a course brings it in which an
engine reports the same chunks.
-/

namespace Confine

/-- Events that an engine reports go to its sandbox one after the other. -/
theorem Stage.run_hear (w : Stage) (sink : w.hasSink = true) (es : List EngineEvent) :
    w.run (es.map .report) = { w with sandbox := w.sandbox.hear es } := by
  induction es generalizing w with
  | nil => rfl
  | cons e es ih =>
    rw [List.map_cons, run_cons, next_report sink]
    exact ih { w with sandbox := (w.sandbox.deliver e).1 } sink

/-- A pump that goes on adds to what it has handed over. -/
theorem Pump.Copied.goes {fed : List PipeItem} {past chunks : List Bytes} {p : Pump} {s : Sandbox}
    {q : Pump × Sandbox} (h : Copied fed past p) (hq : p.Goes s chunks q) :
    Copied fed (past ++ chunks) q.1 where
  chunks := by rw [List.append_assoc, hq.due, h.chunks]
  beyond := hq.beyond.trans h.beyond

namespace Copying

open Pump

/-- The item that a step puts into the pipe. -/
def Step.item? : Step → Option PipeItem
  | .feed item => some item
  | _ => none

/-- The chunks that a step hands to the sink. -/
def handed (w : Copying) : Step → List Bytes
  | .poll => w.pump.handed w.reaped w.sandbox
  | _ => []

/-- What a step is to the sandbox. -/
def moves (w : Copying) : Step → List Move
  | .feed _ | .reap => []
  | .exit status => [.report (.exit status)]
  | .drop => [.drop]
  | .read stream max => [.read stream max]
  | .poll => ((w.handed .poll).map (.data w.pump.fd)).map .report

/-- The copying after a step. -/
def next (w : Copying) (t : Step) : Copying := (w.step t).1

/-- The copying after some steps. -/
def run (w : Copying) (ts : List Step) : Copying := ts.foldl next w

/-- Gathers what each step leaves behind, in the order of the steps. -/
def gather (f : Copying → Step → List α) (w : Copying) : List Step → List α
  | [] => []
  | t :: ts => f w t ++ (w.next t).gather f ts

theorem run_cons (w : Copying) (t : Step) (ts : List Step) :
    w.run (t :: ts) = (w.next t).run ts := rfl

theorem gather_concat (f : Copying → Step → List α) (w : Copying) (ts : List Step) (t : Step) :
    w.gather f (ts ++ [t]) = w.gather f ts ++ f (w.run ts) t := by
  induction ts generalizing w with
  | nil =>
    rw [List.nil_append, gather, gather, gather, List.append_nil, List.nil_append]
    rfl
  | cons t' ts ih => rw [List.cons_append, gather, gather, ih, List.append_assoc, run_cons]

/-- The moves that bring a sandbox to where a pump begins. -/
def opening : List Move := [.spawn { program := "" }, .spawnReturns (.ok ())]

/-- The stage of a sandbox that has started its child. -/
def stage (w : Copying) : Stage := { sandbox := w.sandbox, hasSink := true }

theorem run_opening (c : Config) (fd : Int) :
    (Stage.ofConfig c).run opening = (ofConfig c fd).stage := rfl

section Next

variable {w : Copying} {stream : Stream}

/-- A finished pump stays as it is, also in a poll. -/
theorem next_poll (hfd : w.pump.fd = stream.fd) :
    w.next .poll = { w with
      pump := (w.pump.poll w.reaped w.sandbox).1
      sandbox := (w.pump.poll w.reaped w.sandbox).2 } := by
  rw [next, step]
  split
  · next hf => rw [poll_of_finished hfd hf]
  · rfl

theorem next_fd (hfd : w.pump.fd = stream.fd) (t : Step) : (w.next t).pump.fd = stream.fd := by
  cases t with
  | poll =>
    rw [next_poll hfd]
    exact (poll_goes hfd w.reaped w.sandbox).fd.trans hfd
  | _ => exact hfd

/-- A step is its moves, as far as the sandbox is concerned. -/
theorem stage_next (hfd : w.pump.fd = stream.fd) (t : Step) :
    (w.next t).stage = w.stage.run (w.moves t) := by
  cases t with
  | feed item => rfl
  | reap => rfl
  | exit status => rfl
  | drop => rfl
  | read source max => rfl
  | poll =>
    have hgoes := poll_goes hfd w.reaped w.sandbox
    rw [moves, handed, Stage.run_hear _ rfl, next_poll hfd]
    exact congrArg (fun s => ({ sandbox := s, hasSink := true } : Stage)) hgoes.sandbox

theorem Copied.next {fed : List PipeItem} {past : List Bytes} (h : Copied fed past w.pump)
    (hfd : w.pump.fd = stream.fd) (t : Step) :
    Copied (fed ++ t.item?.toList) (past ++ w.handed t) (w.next t).pump := by
  cases t with
  | feed item =>
    have hnone : w.handed (.feed item) = [] := rfl
    rw [hnone, List.append_nil]
    exact h.feed item
  | poll =>
    have hnone : Step.poll.item? = none := rfl
    rw [hnone, Option.toList_none, List.append_nil, next_poll hfd]
    exact h.goes (poll_goes hfd w.reaped w.sandbox)
  | _ =>
    simp only [handed, Step.item?, Option.toList_none, List.append_nil]
    exact h

end Next

/-- A pump on one of the streams against all that was done so far: its own copying, and the course
of the sandbox. -/
structure Followed (c : Config) (stream : Stream) (ts : List Step) (w : Copying) : Prop where
  fd : w.pump.fd = stream.fd
  copied : Copied (ts.filterMap Step.item?) ((ofConfig c stream.fd).gather handed ts) w.pump
  course : w.stage = (Stage.ofConfig c).run (opening ++ (ofConfig c stream.fd).gather moves ts)

theorem followed_run (c : Config) (stream : Stream) (ts : List Step) :
    Followed c stream ts ((ofConfig c stream.fd).run ts) := by
  refine foldl_induction (P := Followed c stream) next (ofConfig c stream.fd) ?start ?step ts
  case start =>
    refine ⟨rfl, copied_start stream.fd, ?_⟩
    rw [gather, List.append_nil, run_opening c stream.fd]
  case step =>
    intro ts t h
    refine ⟨next_fd h.fd t, ?_, ?_⟩
    · rw [List.filterMap_append, gather_concat]
      have hitem : [t].filterMap Step.item? = t.item?.toList := by
        rw [List.filterMap_cons]
        cases t.item? <;> rfl
      rw [hitem]
      exact Copied.next h.copied h.fd t
    · rw [gather_concat, ← List.append_assoc, Stage.run_append, ← h.course]
      exact stage_next h.fd t

/-- A pump copies its pipe exactly, whatever is done to the sandbox meanwhile. What it handed over
and what is due are the chunks of the pipe up to the end, nothing behind the end is read, and the
pump is finished just if it has read the end. -/
theorem copies_exactly (c : Config) (stream : Stream) (ts : List Step) :
    let start := ofConfig c stream.fd
    let w := start.run ts
    let finished := w.pump.phase = .finished
    let fed := ts.filterMap Step.item?
    let handed := start.gather handed ts
    let unread := if finished then [] else text w.pump.pipe
    handed.flatten ++ unread = text fed ∧
    handed ++ w.pump.due = chunks fed ∧
    (∀ chunk ∈ handed, 1 ≤ chunk.length ∧ chunk.length ≤ 8192) ∧
    (∀ rest, pastEnd? fed = some rest → rest <:+ w.pump.pipe) ∧
    (finished ↔ pastEnd? fed = some w.pump.pipe) ∧
    (¬finished → pastEnd? w.pump.pipe = pastEnd? fed) ∧
    w.sandbox = ((Stage.ofConfig c).run (opening ++ start.gather moves ts)).sandbox := by
  intro start w finished fed handed unread
  have h : Followed c stream ts w := followed_run c stream ts
  have hchunks : handed ++ w.pump.due = chunks fed := h.copied.chunks
  have hbeyond : w.pump.beyond? = pastEnd? fed := h.copied.beyond
  refine ⟨?bytes, hchunks, ?sizes, ?behind, h.copied.finished_iff, ?waiting,
    congrArg Stage.sandbox h.course⟩
  case bytes =>
    have hdue : w.pump.due.flatten = unread := by
      rw [due, apply_ite List.flatten, flatten_chunks]
      rfl
    rw [← hdue, ← List.flatten_append, hchunks, flatten_chunks]
  case sizes =>
    intro chunk hchunk
    have hmem : chunk ∈ chunks fed := hchunks ▸ List.mem_append_left _ hchunk
    exact length_of_mem_chunks hmem
  case behind =>
    intro rest hrest
    by_cases hf : w.pump.phase = .finished
    · rw [hrest, beyond?_of_finished hf] at hbeyond
      cases hbeyond
      exact List.suffix_refl _
    · rw [hrest, beyond?_of_not_finished hf] at hbeyond
      exact (pastEnd?_suffix hbeyond).1
  case waiting =>
    intro hf
    rw [← hbeyond, beyond?_of_not_finished hf]

end Copying

end Confine
