import Confine.Engine
import Confine.Lifecycle

/-!
What the reports of an engine mean, before any sandbox takes them in. A running child is heeded up
to the first end; data on a descriptor without a reader means nothing.
-/

namespace Confine

namespace EngineEvent

/-- The end of the child that an event reports. -/
def ending? : EngineEvent → Option Termination
  | .exit status => some (.exited status)
  | .signal number => some (.signaled number)
  | _ => none

/-- The path of a socket that an event reports. -/
def socket? : EngineEvent → Option String
  | .newSocket path => some path
  | _ => none

/-- The chunk that an event brings for a stream. -/
def chunk? (stream : Stream) : EngineEvent → Option Bytes
  | .data fd bytes => if fd = stream.fd then some bytes else none
  | _ => none

/-- What a running child's event is announced as. -/
def announcement? : EngineEvent → Option LifecycleEvent
  | .data _ _ => none
  | .exit status => some (.exit status)
  | .signal number => some (.signal number)
  | .newSocket path => some (.newSocket path)

/-- Whether an event concerns no descriptor, or one that has a reader. -/
def known : EngineEvent → Bool
  | .data fd _ => decide (fd = 1 ∨ fd = 2)
  | _ => true

/-- The first end that is reported. -/
def firstEnding (es : List EngineEvent) : Option Termination := es.findSome? ending?

/-- The events before the first end. -/
def beforeEnding (es : List EngineEvent) : List EngineEvent :=
  es.takeWhile fun e => e.ending?.isNone

/-- The events up to the first end, with that end. -/
def heeded : List EngineEvent → List EngineEvent
  | [] => []
  | e :: es => if e.ending?.isSome then [e] else e :: heeded es

def sockets (es : List EngineEvent) : List String := es.filterMap socket?

/-- The chunks for a stream, in their order. -/
def chunks (stream : Stream) (es : List EngineEvent) : List Bytes := es.filterMap (chunk? stream)

theorem ending?_ne_spawnFailed (e : EngineEvent) : e.ending? ≠ some .spawnFailed := by
  cases e <;> simp [ending?]

theorem firstEnding_ne_spawnFailed (es : List EngineEvent) :
    firstEnding es ≠ some .spawnFailed := by
  intro h
  obtain ⟨e, -, he⟩ := List.exists_of_findSome?_eq_some h
  exact e.ending?_ne_spawnFailed he

theorem heeded_of_ending {e : EngineEvent} {t : Termination} (h : e.ending? = some t)
    (es : List EngineEvent) : heeded (e :: es) = [e] := by
  rw [heeded, h]
  rfl

theorem heeded_of_no_ending {e : EngineEvent} (h : e.ending? = none) (es : List EngineEvent) :
    heeded (e :: es) = e :: heeded es := by
  rw [heeded, h]
  rfl

theorem chunk?_of_ending {e : EngineEvent} {t : Termination} (h : e.ending? = some t)
    (stream : Stream) : e.chunk? stream = none := by
  cases e with
  | data => exact absurd h (by simp [ending?])
  | _ => rfl

theorem announcement?_of_ending {e : EngineEvent} {t : Termination} (h : e.ending? = some t) :
    e.announcement? = t.event? := by
  cases e with
  | exit status =>
    cases h
    rfl
  | signal number =>
    cases h
    rfl
  | data => cases h
  | newSocket => cases h

theorem ending?_of_unknown {e : EngineEvent} (h : e.known = false) : e.ending? = none := by
  cases e with
  | data => rfl
  | _ => exact absurd h Bool.noConfusion

theorem announcement?_of_unknown {e : EngineEvent} (h : e.known = false) :
    e.announcement? = none := by
  cases e with
  | data => rfl
  | _ => exact absurd h Bool.noConfusion

theorem chunk?_of_unknown {e : EngineEvent} (h : e.known = false) (stream : Stream) :
    e.chunk? stream = none := by
  cases e with
  | data fd bytes =>
    have hfd : ¬(fd = 1 ∨ fd = 2) := of_decide_eq_false h
    refine if_neg fun hs => hfd ?_
    cases stream with
    | stdout => exact .inl hs
    | stderr => exact .inr hs
  | _ => rfl

theorem firstEnding_filter_known (es : List EngineEvent) :
    firstEnding (es.filter known) = firstEnding es := by
  induction es with
  | nil => rfl
  | cons e es ih =>
    simp only [firstEnding] at ih
    cases hk : e.known with
    | true => simp only [firstEnding, List.filter_cons, hk, ↓reduceIte, List.findSome?_cons, ih]
    | false =>
      have he := ending?_of_unknown hk
      simp only [firstEnding, List.filter_cons, hk, Bool.false_eq_true, ↓reduceIte,
        List.findSome?_cons, he, ih]

theorem heeded_filter_known (es : List EngineEvent) :
    heeded (es.filter known) = (heeded es).filter known := by
  induction es with
  | nil => rfl
  | cons e es ih =>
    cases hk : e.known with
    | true =>
      rw [List.filter_cons_of_pos hk]
      cases he : e.ending? with
      | none => rw [heeded_of_no_ending he, heeded_of_no_ending he, List.filter_cons_of_pos hk, ih]
      | some t => rw [heeded_of_ending he, heeded_of_ending he, List.filter_cons_of_pos hk]; rfl
    | false =>
      have hneg : ¬e.known = true := by
        rw [hk]
        exact Bool.noConfusion
      rw [List.filter_cons_of_neg hneg, ih, heeded_of_no_ending (ending?_of_unknown hk),
        List.filter_cons_of_neg hneg]

/-- The announcements of the heeded events are the sockets before the end, and the end. -/
theorem announcements_heeded (es : List EngineEvent) :
    (heeded es).filterMap announcement? = (sockets (beforeEnding es)).map .newSocket ++
      ((firstEnding es).bind Termination.event?).toList := by
  induction es with
  | nil => rfl
  | cons e es ih =>
    cases e with
    | exit status => rfl
    | signal number => rfl
    | data fd bytes => exact ih
    | newSocket path => exact congrArg (LifecycleEvent.newSocket path :: ·) ih

/-- An end brings no chunk. -/
theorem chunks_heeded (stream : Stream) (es : List EngineEvent) :
    (heeded es).filterMap (chunk? stream) = chunks stream (beforeEnding es) := by
  induction es with
  | nil => rfl
  | cons e es ih =>
    cases he : e.ending? with
    | none =>
      have hbefore : beforeEnding (e :: es) = e :: beforeEnding es := by
        rw [beforeEnding, List.takeWhile_cons_of_pos (by rw [he]; rfl)]
        rfl
      rw [heeded_of_no_ending he, hbefore, List.filterMap_cons, ih, chunks, chunks,
        List.filterMap_cons]
    | some t =>
      have hbefore : beforeEnding (e :: es) = [] :=
        List.takeWhile_cons_of_neg (by rw [he]; exact Bool.noConfusion)
      rw [heeded_of_ending he, hbefore, List.filterMap_cons_none (chunk?_of_ending he stream)]
      rfl

end EngineEvent

namespace Lifecycle

open EngineEvent

/-- The state after some events: a running child ends with the first end. -/
def after (es : List EngineEvent) : Lifecycle → Lifecycle
  | running =>
    match firstEnding es with
    | some t => terminated t
    | none => running
  | state => state

/-- What the events of a running child tell up to the end; `f` tells what one event tells. -/
def tells (f : EngineEvent → Option α) (es : List EngineEvent) : Lifecycle → List α
  | running => (heeded es).filterMap f
  | _ => []

theorem after_of_not_running {state : Lifecycle} (h : state ≠ running) (es : List EngineEvent) :
    state.after es = state := by
  cases state with
  | running => exact absurd rfl h
  | _ => rfl

theorem after_of_no_ending {es : List EngineEvent} (h : firstEnding es = none)
    (state : Lifecycle) : state.after es = state := by
  cases state with
  | running => simp only [after, h]
  | _ => rfl

theorem after_eq_idle {state : Lifecycle} {es : List EngineEvent} :
    state.after es = idle ↔ state = idle := by
  cases state with
  | running => cases h : firstEnding es <;> simp [after, h]
  | _ => rfl

theorem after_eq_spawning {state : Lifecycle} {es : List EngineEvent} :
    state.after es = spawning ↔ state = spawning := by
  cases state with
  | running => cases h : firstEnding es <;> simp [after, h]
  | _ => rfl

theorem after_eq_spawnFailed {state : Lifecycle} {es : List EngineEvent} :
    state.after es = terminated .spawnFailed ↔ state = terminated .spawnFailed := by
  cases state with
  | running =>
    cases h : firstEnding es with
    | none => simp [after, h]
    | some t =>
      have ht : t ≠ .spawnFailed := fun he => firstEnding_ne_spawnFailed es (he ▸ h)
      simp [after, h, ht]
  | _ => rfl

theorem after_nil (state : Lifecycle) : state.after [] = state := by
  cases state <;> rfl

theorem after_cons (state : Lifecycle) (e : EngineEvent) (es : List EngineEvent) :
    state.after (e :: es) = (state.after [e]).after es := by
  cases state with
  | running =>
    cases he : e.ending? with
    | none => simp only [after, firstEnding, List.findSome?_cons, he, List.findSome?_nil]
    | some t => simp only [after, firstEnding, List.findSome?_cons, he]
  | _ => rfl

theorem after_append (state : Lifecycle) (es es' : List EngineEvent) :
    state.after (es ++ es') = (state.after es).after es' := by
  induction es generalizing state with
  | nil => rw [List.nil_append, after_nil]
  | cons e es ih => rw [List.cons_append, after_cons, ih, ← after_cons]

theorem after_filter_known (state : Lifecycle) (es : List EngineEvent) :
    state.after (es.filter known) = state.after es := by
  cases state with
  | running => simp only [after, firstEnding_filter_known]
  | _ => rfl

section Tells

variable {f : EngineEvent → Option α}

theorem tells_of_not_running {state : Lifecycle} (h : state ≠ running) (es : List EngineEvent) :
    state.tells f es = [] := by
  cases state with
  | running => exact absurd rfl h
  | _ => rfl

theorem tells_nil (state : Lifecycle) : state.tells f [] = [] := by
  cases state <;> rfl

theorem tells_one (e : EngineEvent) : running.tells f [e] = (f e).toList := by
  have hone : heeded [e] = [e] := by
    cases he : e.ending? with
    | none => exact heeded_of_no_ending he []
    | some t => exact heeded_of_ending he []
  rw [tells, hone, List.filterMap_cons]
  cases f e <;> rfl

theorem tells_of_none {e : EngineEvent} (h : f e = none) (state : Lifecycle) :
    state.tells f [e] = [] := by
  cases state with
  | running => rw [tells_one, h, Option.toList_none]
  | _ => rfl

theorem tells_cons (state : Lifecycle) (e : EngineEvent) (es : List EngineEvent) :
    state.tells f (e :: es) = state.tells f [e] ++ (state.after [e]).tells f es := by
  cases state with
  | running =>
    rw [tells_one]
    cases he : e.ending? with
    | none =>
      have hafter : running.after [e] = running :=
        after_of_no_ending (by simp [firstEnding, he]) running
      rw [hafter, tells, heeded_of_no_ending he, List.filterMap_cons]
      cases f e <;> rfl
    | some t =>
      have hafter : running.after [e] = terminated t := by simp [after, firstEnding, he]
      rw [hafter, tells, heeded_of_ending he, List.filterMap_cons]
      cases f e <;> rfl
  | _ => rfl

theorem tells_append (state : Lifecycle) (es es' : List EngineEvent) :
    state.tells f (es ++ es') = state.tells f es ++ (state.after es).tells f es' := by
  induction es generalizing state with
  | nil => rw [List.nil_append, tells_nil, after_nil, List.nil_append]
  | cons e es ih =>
    rw [List.cons_append, tells_cons, ih, tells_cons state e es, after_cons state e es,
      List.append_assoc]

theorem tells_filter_known (h : ∀ e : EngineEvent, e.known = false → f e = none)
    (state : Lifecycle) (es : List EngineEvent) :
    state.tells f (es.filter known) = state.tells f es := by
  cases state with
  | running =>
    rw [tells, tells, heeded_filter_known, List.filterMap_filter]
    congr
    funext e
    cases hk : e.known with
    | true => rfl
    | false => exact (h e hk).symm
  | _ => rfl

end Tells

end Lifecycle

namespace Stream

theorem ofFd?_eq_some {fd : Int} {stream : Stream} : ofFd? fd = some stream ↔ fd = stream.fd := by
  rw [ofFd?]
  split
  · next h => subst h; cases stream <;> simp [Stream.fd]
  · split
    · next h => subst h; cases stream <;> simp [Stream.fd]
    · next h₁ h₂ => cases stream <;> simp [Stream.fd, h₁, h₂]

theorem ofFd?_eq_none {fd : Int} : ofFd? fd = none ↔ ¬(fd = 1 ∨ fd = 2) := by
  rw [ofFd?]
  split
  · next h => simp [h]
  · split
    · next h => simp [h]
    · next h₁ h₂ => simp [h₁, h₂]

theorem ofFd?_fd (stream : Stream) : ofFd? stream.fd = some stream := ofFd?_eq_some.mpr rfl

end Stream

namespace EngineEvent

theorem chunks_append (stream : Stream) (es es' : List EngineEvent) :
    chunks stream (es ++ es') = chunks stream es ++ chunks stream es' := List.filterMap_append

/-- An end behind other events adds nothing to a stream. -/
theorem chunks_concat_ending (stream : Stream) (es : List EngineEvent) {e : EngineEvent}
    {t : Termination} (h : e.ending? = some t) : chunks stream (es ++ [e]) = chunks stream es := by
  have hsilent : chunks stream [e] = [] := List.filterMap_cons_none (chunk?_of_ending h stream)
  rw [chunks_append, hsilent, List.append_nil]

section Data

variable (stream : Stream) (handed : List Bytes)

theorem chunks_data : chunks stream (handed.map (.data stream.fd)) = handed := by
  induction handed with
  | nil => rfl
  | cons chunk handed ih =>
    have hone : (EngineEvent.data stream.fd chunk).chunk? stream = some chunk := if_pos rfl
    rw [List.map_cons, chunks, List.filterMap_cons_some hone, ← chunks, ih]

theorem chunks_data_ne {other : Stream} (h : stream ≠ other) :
    chunks stream (handed.map (.data other.fd)) = [] := by
  apply List.filterMap_eq_nil_iff.mpr
  intro e hmem
  obtain ⟨chunk, -, rfl⟩ := List.mem_map.mp hmem
  refine if_neg fun hfd => h ?_
  exact (Option.some.inj ((Stream.ofFd?_fd other).symm.trans (hfd ▸ Stream.ofFd?_fd stream))).symm

theorem ending?_data {e : EngineEvent} {fd : Int} (h : e ∈ handed.map (.data fd)) :
    e.ending? = none := by
  obtain ⟨chunk, -, rfl⟩ := List.mem_map.mp h
  rfl

/-- Among data there is no end, so a running child is heeded throughout. -/
theorem tells_data : Lifecycle.running.tells (chunk? stream) (handed.map (.data stream.fd)) =
    handed := by
  induction handed with
  | nil => rfl
  | cons chunk handed ih =>
    have hone : (EngineEvent.data stream.fd chunk).chunk? stream = some chunk := if_pos rfl
    rw [List.map_cons, Lifecycle.tells_cons, Lifecycle.tells_one, hone,
      Lifecycle.after_of_no_ending rfl, ih]
    rfl

end Data

end EngineEvent

end Confine
