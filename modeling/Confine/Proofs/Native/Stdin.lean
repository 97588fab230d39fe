import Confine.Native.Engine
import Mathlib.Tactic.ByContra

/-!
Standard input on its way from the calls of a native engine to the pipe of the child. Callers and
the task that writes the pipe go on in steps that can follow each other in any order, and each step
is noted in a record. Main statement: `delivers_in_order`, for every such record.
-/

namespace Confine

/-- The way into a child. The task is at work on the oldest queued chunk. -/
structure StdinLine where
  /-- Whether the engine was asked to spawn; it serves for one child only. -/
  used : Bool := false
  /-- Whether there are a child and a task that writes its pipe. -/
  started : Bool := false
  /-- Whether the engine is gone. -/
  released : Bool := false
  queue : StdinQueue := {}
  /-- How much of the oldest queued chunk is in the pipe. -/
  sent : Nat := 0

namespace StdinLine

inductive Event where
  | spawn
  | spawnFails
  | write (bytes : Bytes) (answer : Except EngineError Unit)
  | close
  /-- The engine goes, and with it the sending end of the queue. -/
  | release
  /-- The task puts something into the pipe. -/
  | put (part : Bytes)
  /-- The task has written all of a chunk. -/
  | complete (chunk : Bytes)
  /-- The pipe fails, and the task stops. -/
  | fail
  /-- The task has nothing more to wait for, and closes the pipe. -/
  | finish

/-- Whether the task does it. -/
def Event.byTask : Event → Bool
  | put _ | complete _ | fail | finish => true
  | _ => false

/-- The steps of the callers and of the task. -/
inductive Step (l : StdinLine) : Event → StdinLine → Prop
  | spawn (hu : l.used = false) (hr : l.released = false) :
      Step l .spawn { l with used := true, started := true, queue := .opened, sent := 0 }
  | spawnFails (hu : l.used = false) (hr : l.released = false) :
      Step l .spawnFails { l with used := true }
  | write (bytes : Bytes) (hr : l.released = false) :
      Step l (.write bytes (l.queue.write bytes).2) { l with queue := (l.queue.write bytes).1 }
  | close (hr : l.released = false) : Step l .close { l with queue := l.queue.close }
  | release (hr : l.released = false) :
      Step l .release { l with released := true, queue := l.queue.close }
  | put {chunk : Bytes} {rest : List Bytes} (part : Bytes) (ho : l.queue.pipe = .open)
      (hq : l.queue.queued = chunk :: rest) (hp : part <+: chunk.drop l.sent) (hne : part ≠ []) :
      Step l (.put part) { l with sent := l.sent + part.length }
  | complete {chunk : Bytes} {rest : List Bytes} (ho : l.queue.pipe = .open)
      (hq : l.queue.queued = chunk :: rest) (hs : l.sent = chunk.length) :
      Step l (.complete chunk)
        { l with
          queue := { l.queue with queued := rest, written := l.queue.written ++ [chunk] }
          sent := 0 }
  | fail {chunk : Bytes} {rest : List Bytes} (ho : l.queue.pipe = .open)
      (hq : l.queue.queued = chunk :: rest) (hs : l.sent < chunk.length) :
      Step l .fail { l with queue := { l.queue with queued := rest, pipe := .failed }, sent := 0 }
  | finish (ht : l.started = true) (ho : l.queue.pipe = .open) (hq : l.queue.queued = [])
      (ha : l.queue.accepting = false) :
      Step l .finish { l with queue := { l.queue with pipe := .closed } }

/-- Any number of steps, with their record. -/
inductive Steps (l : StdinLine) : List Event → StdinLine → Prop
  | refl : Steps l [] l
  | tail {es : List Event} {e : Event} {l' l'' : StdinLine} (h : Steps l es l')
      (hs : Step l' e l'') : Steps l (es ++ [e]) l''

/-- The chunks that were accepted, in the order of the calls. -/
def accepted (es : List Event) : List Bytes :=
  es.filterMap fun
    | .write bytes (.ok ()) => some bytes
    | _ => none

/-- The chunks that were written in full. -/
def written (es : List Event) : List Bytes :=
  es.filterMap fun
    | .complete chunk => some chunk
    | _ => none

/-- The bytes that went into the pipe. -/
def piped (es : List Event) : Bytes :=
  es.flatMap fun
    | .put part => part
    | _ => []

/-- There was a spawn, and since then neither a closing nor the release. -/
def Opened (es : List Event) : Prop :=
  ∃ before after, es = before ++ .spawn :: after ∧ .close ∉ after ∧ .release ∉ after

/-- There was a closing after a spawn; before it there is nothing to close. -/
def Shut (es : List Event) : Prop :=
  ∃ before after, es = before ++ .close :: after ∧ .spawn ∈ before

/-- An event of a longer record is the last one, or it is in the record without the last one. -/
theorem concat_split {es before after : List Event} {e x : Event}
    (h : es ++ [e] = before ++ x :: after) :
    (es = before ∧ e = x ∧ after = []) ∨
      ∃ after', after = after' ++ [e] ∧ es = before ++ x :: after' := by
  obtain rfl | ⟨after, e', rfl⟩ := List.eq_nil_or_concat after
  · obtain ⟨hes, he⟩ := List.append_inj' h rfl
    exact .inl ⟨hes, List.singleton_inj.mp he, rfl⟩
  · rw [List.concat_eq_append, ← List.cons_append, ← List.append_assoc] at h
    obtain ⟨hes, he⟩ := List.append_inj' h rfl
    cases he
    exact .inr ⟨after, List.concat_eq_append, hes⟩

theorem opened_concat {es : List Event} {e : Event} :
    Opened (es ++ [e]) ↔ e = .spawn ∨ Opened es ∧ e ≠ .close ∧ e ≠ .release := by
  constructor
  · rintro ⟨before, after, heq, hclose, hrelease⟩
    obtain ⟨-, he, -⟩ | ⟨after, rfl, hes⟩ := concat_split heq
    · exact .inl he
    · rw [List.mem_append, not_or, List.mem_singleton] at hclose hrelease
      exact .inr ⟨⟨before, after, hes, hclose.1, hrelease.1⟩, Ne.symm hclose.2, Ne.symm hrelease.2⟩
  · rintro (rfl | ⟨⟨before, after, rfl, hclose, hrelease⟩, hc, hr⟩)
    · exact ⟨es, [], rfl, List.not_mem_nil, List.not_mem_nil⟩
    · refine ⟨before, after ++ [e], ?_, ?_, ?_⟩
      · rw [List.append_assoc, List.cons_append]
      · rw [List.mem_append, not_or, List.mem_singleton]
        exact ⟨hclose, Ne.symm hc⟩
      · rw [List.mem_append, not_or, List.mem_singleton]
        exact ⟨hrelease, Ne.symm hr⟩

theorem shut_concat {es : List Event} {e : Event} (h : Shut (es ++ [e])) :
    Shut es ∨ e = .close := by
  obtain ⟨before, after, heq, hspawn⟩ := h
  obtain ⟨-, he, -⟩ | ⟨after, -, hes⟩ := concat_split heq
  · exact .inr he
  · exact .inl ⟨before, after, hes, hspawn⟩

theorem Shut.spawn_mem {es : List Event} (h : Shut es) : .spawn ∈ es := by
  obtain ⟨before, after, rfl, hspawn⟩ := h
  exact List.mem_append_left _ hspawn

theorem Opened.spawn_mem {es : List Event} (h : Opened es) : .spawn ∈ es := by
  obtain ⟨before, after, rfl, -, -⟩ := h
  exact List.mem_append_right _ List.mem_cons_self

/-- A queue accepts a chunk as the last one, or refuses it and stays as it is. -/
theorem write_cases (q : StdinQueue) (bytes : Bytes) :
    (q.accepting = true ∧ q.pipe = .open ∧
      q.write bytes = ({ q with queued := q.queued ++ [bytes] }, .ok ())) ∨
    (¬ (q.accepting = true ∧ q.pipe = .open) ∧ q.write bytes = (q, .error .notRunning)) := by
  rw [StdinQueue.write]
  split
  · next h =>
    rw [Bool.and_eq_true, decide_eq_true_eq] at h
    exact .inl ⟨h.1, h.2, rfl⟩
  · next h =>
    rw [Bool.and_eq_true, decide_eq_true_eq] at h
    exact .inr ⟨h, rfl⟩

theorem write_accepting (q : StdinQueue) (bytes : Bytes) :
    (q.write bytes).1.accepting = q.accepting := by
  obtain ⟨-, -, hw⟩ | ⟨-, hw⟩ := write_cases q bytes <;> rw [hw]

theorem write_pipe (q : StdinQueue) (bytes : Bytes) : (q.write bytes).1.pipe = q.pipe := by
  obtain ⟨-, -, hw⟩ | ⟨-, hw⟩ := write_cases q bytes <;> rw [hw]

section Flags

variable {l l' : StdinLine} {e : Event}

theorem Step.started (hs : Step l e l') : l'.started = true ↔ l.started = true ∨ e = .spawn := by
  cases hs <;> simp

theorem Step.used (hs : Step l e l') : l'.used = true ↔
    l.used = true ∨ e = .spawn ∨ e = .spawnFails := by
  cases hs <;> simp

theorem Step.unused (hs : Step l .spawn l') : l.used = false := by
  cases hs with
  | spawn hu hr => exact hu

theorem Step.accepting (hs : Step l e l') : l'.queue.accepting = true ↔
    e = .spawn ∨ l.queue.accepting = true ∧ e ≠ .close ∧ e ≠ .release := by
  cases hs <;> simp [StdinQueue.opened, StdinQueue.close, write_accepting]

variable (hnew : l.used = false → l.queue.pipe = .open)

include hnew

theorem Step.failed (hs : Step l e l') :
    l'.queue.pipe = .failed ↔ l.queue.pipe = .failed ∨ e = .fail := by
  cases hs with
  | spawn hu hr => simp [StdinQueue.opened, hnew hu]
  | finish ht ho hq ha => simp [ho]
  | _ => simp [StdinQueue.close, write_pipe]

theorem Step.closed (hs : Step l e l') :
    l'.queue.pipe = .closed ↔ l.queue.pipe = .closed ∨ e = .finish := by
  cases hs with
  | spawn hu hr => simp [StdinQueue.opened, hnew hu]
  | fail ho hq hs => simp [ho]
  | _ => simp [StdinQueue.close, write_pipe]

end Flags

/-- What the flags of the line tell of its record. -/
structure Marked (es : List Event) (l : StdinLine) : Prop where
  fresh : l.started = false → l.queue = {} ∧ l.sent = 0
  started : l.started = true ↔ .spawn ∈ es
  used : l.started = true → l.used = true
  accepting : l.queue.accepting = true ↔ Opened es
  failed : l.queue.pipe = .failed ↔ .fail ∈ es
  closed : l.queue.pipe = .closed ↔ .finish ∈ es
  shut : Shut es → l.queue.accepting = false

theorem marked_nil : Marked [] {} where
  fresh _ := ⟨rfl, rfl⟩
  started := by simp
  used := by simp
  accepting := by simp [Opened]
  failed := by simp
  closed := by simp
  shut _ := rfl

theorem Marked.unstarted {es : List Event} {l : StdinLine} (h : Marked es l)
    (hu : l.used = false) : l.started = false :=
  Bool.eq_false_iff.mpr fun hstarted => absurd ((h.used hstarted).symm.trans hu) Bool.noConfusion

/-- Before the spawn there is nothing in the line, whatever the steps. -/
theorem Step.fresh {l l' : StdinLine} {e : Event} (hs : Step l e l')
    (hl : l.started = false → l.queue = {} ∧ l.sent = 0) (hl' : l'.started = false) :
    l'.queue = {} ∧ l'.sent = 0 := by
  have hunstarted : l.started = false := by
    rw [← Bool.not_eq_true, hs.started, not_or, Bool.not_eq_true] at hl'
    exact hl'.1
  obtain ⟨hqueue, hsent⟩ := hl hunstarted
  cases hs with
  | spawn hu hr => cases hl'
  | spawnFails hu hr => exact ⟨hqueue, hsent⟩
  | write bytes hr => exact ⟨by rw [hqueue]; rfl, hsent⟩
  | close hr => exact ⟨by rw [hqueue]; rfl, hsent⟩
  | release hr => exact ⟨by rw [hqueue]; rfl, hsent⟩
  | put part ho hq hp hne =>
    rw [hqueue] at hq
    cases hq
  | complete ho hq hs =>
    rw [hqueue] at hq
    cases hq
  | fail ho hq hs =>
    rw [hqueue] at hq
    cases hq
  | finish ht ho hq ha => exact absurd (ht.symm.trans hunstarted) Bool.noConfusion

theorem Marked.next {es : List Event} {l l' : StdinLine} {e : Event} (h : Marked es l)
    (hs : Step l e l') : Marked (es ++ [e]) l' := by
  have hnew (hu : l.used = false) : l.queue.pipe = .open := by
    rw [(h.fresh (h.unstarted hu)).1]
  have hlast (x : Event) : x ∈ es ++ [e] ↔ x ∈ es ∨ e = x := by
    rw [List.mem_append, List.mem_singleton, eq_comm]
  constructor
  · exact hs.fresh h.fresh
  · rw [hs.started, hlast, h.started]
  · rw [hs.started, hs.used]
    rintro (hstarted | hspawn)
    · exact .inl (h.used hstarted)
    · exact .inr (.inl hspawn)
  · rw [hs.accepting, opened_concat, h.accepting]
  · rw [hs.failed hnew, hlast, h.failed]
  · rw [hs.closed hnew, hlast, h.closed]
  · intro hshut
    rw [← Bool.not_eq_true, hs.accepting]
    rintro (rfl | ⟨haccepting, hclose, -⟩)
    · obtain hshut | hclose := shut_concat hshut
      · have hused := h.used (h.started.mpr hshut.spawn_mem)
        exact absurd (hused.symm.trans hs.unused) Bool.noConfusion
      · cases hclose
    · obtain hshut | hclosed := shut_concat hshut
      · exact absurd (haccepting.symm.trans (h.shut hshut)) Bool.noConfusion
      · exact hclose hclosed

@[simp]
theorem accepted_append (es es' : List Event) :
    accepted (es ++ es') = accepted es ++ accepted es' :=
  List.filterMap_append

@[simp]
theorem written_append (es es' : List Event) : written (es ++ es') = written es ++ written es' :=
  List.filterMap_append

@[simp]
theorem piped_append (es es' : List Event) : piped (es ++ es') = piped es ++ piped es' :=
  List.flatMap_append

/-- The oldest chunk is not more than in the pipe, and a closed pipe has had all. -/
structure Tidy (l : StdinLine) : Prop where
  fits : l.sent ≤ (l.queue.queued.headD []).length
  drained : l.queue.pipe = .closed → l.queue.queued = [] ∧ l.queue.accepting = false

theorem tidy_new : Tidy {} where
  fits := Nat.zero_le _
  drained hc := PipeEnd.noConfusion hc

theorem Tidy.close {l l' : StdinLine} (h : Tidy l) (hqueue : l'.queue = l.queue.close)
    (hsent : l'.sent = l.sent) : Tidy l' := by
  constructor
  · rw [hqueue, hsent]
    exact h.fits
  · rw [hqueue]
    intro hc
    exact ⟨(h.drained hc).1, rfl⟩

theorem Tidy.write {l : StdinLine} (h : Tidy l) (bytes : Bytes) :
    Tidy { l with queue := (l.queue.write bytes).1 } := by
  obtain ⟨ha, ho, hw⟩ | ⟨hno, hw⟩ := write_cases l.queue bytes
  · rw [hw]
    refine ⟨?_, fun hc => PipeEnd.noConfusion (ho.symm.trans hc)⟩
    have hfits := h.fits
    cases hq : l.queue.queued with
    | nil =>
      rw [hq] at hfits
      exact Nat.le_trans hfits (Nat.zero_le _)
    | cons chunk rest =>
      rw [hq] at hfits
      exact hfits
  · rw [hw]
    exact ⟨h.fits, h.drained⟩

theorem Tidy.next {l l' : StdinLine} {e : Event} (h : Tidy l) (hs : Step l e l') : Tidy l' := by
  cases hs with
  | spawn hu hr => exact ⟨Nat.zero_le _, fun hc => PipeEnd.noConfusion hc⟩
  | spawnFails hu hr => exact ⟨h.fits, h.drained⟩
  | write bytes hr => exact h.write bytes
  | close hr => exact h.close rfl rfl
  | release hr => exact h.close rfl rfl
  | @put chunk rest part ho hq hp hne =>
    refine ⟨?_, h.drained⟩
    have hlength := hp.length_le
    have hfits := h.fits
    rw [List.length_drop] at hlength
    rw [hq, List.headD_cons] at hfits
    change l.sent + part.length ≤ _
    rw [hq, List.headD_cons]
    omega
  | complete ho hq hs => exact ⟨Nat.zero_le _, fun hc => PipeEnd.noConfusion (ho.symm.trans hc)⟩
  | fail ho hq hs => exact ⟨Nat.zero_le _, fun hc => PipeEnd.noConfusion hc⟩
  | finish ht ho hq ha => exact ⟨h.fits, fun _ => ⟨hq, ha⟩⟩

/-- The chunks that were accepted are written in full, written in part, or queued. Once the pipe has
failed, those that are not written in full are lost. -/
structure Booked (es : List Event) (l : StdinLine) : Prop where
  full : written es = l.queue.written
  rest : ∃ left part, accepted es = l.queue.written ++ left ∧
    piped es = l.queue.written.flatten ++ part ∧ part <+: left.headD [] ∧
    (l.queue.pipe ≠ .failed → left = l.queue.queued ∧ part.length = l.sent)

theorem booked_nil : Booked [] {} where
  full := rfl
  rest := ⟨[], [], rfl, rfl, List.nil_prefix, fun _ => ⟨rfl, rfl⟩⟩

/-- A step that neither accepts nor writes anything leaves the books as they are. -/
theorem Booked.silent {es : List Event} {l l' : StdinLine} {e : Event} (h : Booked es l)
    (hsilent : accepted [e] = [] ∧ written [e] = [] ∧ piped [e] = [])
    (hfull : l'.queue.written = l.queue.written)
    (hleft : l'.queue.pipe ≠ .failed → l.queue.pipe ≠ .failed ∧
      l'.queue.queued = l.queue.queued ∧ l'.sent = l.sent) : Booked (es ++ [e]) l' := by
  obtain ⟨haccepted, hwritten, hpiped⟩ := hsilent
  obtain ⟨left, part, hleft₁, hpart₁, hpart, hrest⟩ := h.rest
  constructor
  · rw [written_append, hwritten, List.append_nil, hfull, h.full]
  · rw [accepted_append, haccepted, piped_append, hpiped, List.append_nil, List.append_nil, hfull]
    refine ⟨left, part, hleft₁, hpart₁, hpart, fun hp => ?_⟩
    obtain ⟨hp, hqueued, hsent⟩ := hleft hp
    rw [hqueued, hsent]
    exact hrest hp

theorem headD_concat_of_prefix {left : List Bytes} {part : Bytes} (h : part <+: left.headD [])
    (bytes : Bytes) : part <+: (left ++ [bytes]).headD [] := by
  cases left with
  | nil =>
    rw [List.prefix_nil.mp h]
    exact List.nil_prefix
  | cons chunk rest => exact h

theorem Booked.accept {es : List Event} {l : StdinLine} (h : Booked es l) (bytes : Bytes) :
    Booked (es ++ [.write bytes (.ok ())])
      { l with queue := { l.queue with queued := l.queue.queued ++ [bytes] } } := by
  obtain ⟨left, part, haccepted, hpiped, hpart, hleft⟩ := h.rest
  constructor
  · rw [written_append, h.full]
    exact List.append_nil _
  · refine ⟨left ++ [bytes], part, ?_, ?_, headD_concat_of_prefix hpart bytes, fun hp => ?_⟩
    · rw [accepted_append, haccepted, List.append_assoc]
      rfl
    · rw [piped_append, hpiped]
      exact List.append_nil _
    · obtain ⟨rfl, hlength⟩ := hleft hp
      exact ⟨rfl, hlength⟩

theorem Booked.put {es : List Event} {l : StdinLine} {chunk part' : Bytes} {rest : List Bytes}
    (h : Booked es l) (ho : l.queue.pipe = .open) (hq : l.queue.queued = chunk :: rest)
    (hp : part' <+: chunk.drop l.sent) :
    Booked (es ++ [.put part']) { l with sent := l.sent + part'.length } := by
  obtain ⟨left, part, haccepted, hpiped, hpart, hleft⟩ := h.rest
  obtain ⟨rfl, hlength⟩ := hleft (ho ▸ PipeEnd.noConfusion)
  rw [hq] at hpart
  obtain ⟨after, hafter⟩ := hp
  have hchunk : part ++ part' <+: chunk := by
    refine ⟨after, ?_⟩
    rw [List.append_assoc, hafter, ← hlength]
    exact List.prefix_iff_eq_append.mp hpart
  constructor
  · rw [written_append, h.full]
    exact List.append_nil _
  · refine ⟨l.queue.queued, part ++ part', ?_, ?_, ?_, fun _ => ⟨rfl, ?_⟩⟩
    · rw [accepted_append, haccepted]
      exact List.append_nil _
    · rw [piped_append, hpiped, List.append_assoc]
      simp [piped]
    · rw [hq]
      exact hchunk
    · rw [List.length_append, hlength]

theorem Booked.complete {es : List Event} {l : StdinLine} {chunk : Bytes} {rest : List Bytes}
    (h : Booked es l) (ho : l.queue.pipe = .open) (hq : l.queue.queued = chunk :: rest)
    (hs : l.sent = chunk.length) :
    Booked (es ++ [.complete chunk])
      { l with
        queue := { l.queue with queued := rest, written := l.queue.written ++ [chunk] }
        sent := 0 } := by
  obtain ⟨left, part, haccepted, hpiped, hpart, hleft⟩ := h.rest
  obtain ⟨rfl, hlength⟩ := hleft (ho ▸ PipeEnd.noConfusion)
  rw [hq] at hpart haccepted
  -- all of the chunk is in the pipe
  have hall : part = chunk := hpart.eq_of_length (hlength.trans hs)
  constructor
  · rw [written_append, h.full]
    rfl
  · refine ⟨rest, [], ?_, ?_, List.nil_prefix, fun _ => ⟨rfl, rfl⟩⟩
    · rw [accepted_append, haccepted]
      simp [accepted]
    · rw [piped_append, hpiped, hall]
      simp [piped]

theorem Booked.next {es : List Event} {l l' : StdinLine} {e : Event} (h : Booked es l)
    (hm : Marked es l) (hs : Step l e l') : Booked (es ++ [e]) l' := by
  cases hs with
  | spawn hu hr =>
    -- the line is as good as new, so only the flag changes
    obtain ⟨hqueue, hsent⟩ := hm.fresh (hm.unstarted hu)
    apply h.silent ⟨rfl, rfl, rfl⟩
    · rw [hqueue]
      rfl
    · intro _
      rw [hqueue, hsent]
      exact ⟨PipeEnd.noConfusion, rfl, rfl⟩
  | spawnFails hu hr => exact h.silent ⟨rfl, rfl, rfl⟩ rfl fun hp => ⟨hp, rfl, rfl⟩
  | write bytes hr =>
    obtain ⟨ha, ho, hw⟩ | ⟨hno, hw⟩ := write_cases l.queue bytes
    · rw [hw]
      exact h.accept bytes
    · rw [hw]
      exact h.silent ⟨rfl, rfl, rfl⟩ rfl fun hp => ⟨hp, rfl, rfl⟩
  | close hr => exact h.silent ⟨rfl, rfl, rfl⟩ rfl fun hp => ⟨hp, rfl, rfl⟩
  | release hr => exact h.silent ⟨rfl, rfl, rfl⟩ rfl fun hp => ⟨hp, rfl, rfl⟩
  | put part ho hq hp hne => exact h.put ho hq hp
  | complete ho hq hs => exact h.complete ho hq hs
  | fail ho hq hs => exact h.silent ⟨rfl, rfl, rfl⟩ rfl fun hp => absurd rfl hp
  | finish ht ho hq ha =>
    refine h.silent ⟨rfl, rfl, rfl⟩ rfl fun _ => ⟨?_, rfl, rfl⟩
    rw [ho]
    exact PipeEnd.noConfusion

/-- A run from a new line keeps the line tidy, and its flags and books in step with the record. -/
theorem Steps.kept {es : List Event} {l : StdinLine} (h : Steps {} es l) :
    Marked es l ∧ Tidy l ∧ Booked es l := by
  induction h with
  | refl => exact ⟨marked_nil, tidy_new, booked_nil⟩
  | tail _ hs ih =>
    obtain ⟨hm, ht, hb⟩ := ih
    exact ⟨hm.next hs, ht.next hs, hb.next hm hs⟩

/-- A run passes through each of its steps. -/
theorem Steps.split {l l' : StdinLine} {es before after : List Event} {e : Event}
    (h : Steps l es l') (heq : es = before ++ e :: after) :
    ∃ l₁ l₂, Steps l before l₁ ∧ Step l₁ e l₂ := by
  induction h generalizing after with
  | refl => exact absurd heq.symm (List.append_ne_nil_of_right_ne_nil _ (List.cons_ne_nil _ _))
  | tail h hs ih =>
    obtain ⟨rfl, rfl, -⟩ | ⟨after, -, hes⟩ := concat_split heq
    · exact ⟨_, _, h, hs⟩
    · exact ih hes

/-- How many steps the task can still take, at most. -/
def work (l : StdinLine) : Nat :=
  l.queue.queued.flatten.length - l.sent + l.queue.queued.length +
    if l.queue.pipe = .open then 1 else 0

/-- The task comes nearer to its end with each of its steps. -/
theorem Step.work_lt {l l' : StdinLine} {e : Event} (hs : Step l e l') (ht : e.byTask = true) :
    l'.work < l.work := by
  cases hs with
  | @put chunk rest part ho hq hp hne =>
    have hlength := hp.length_le
    have hpos := List.length_pos_iff.mpr hne
    rw [List.length_drop] at hlength
    simp only [work, hq, List.flatten_cons, List.length_append]
    omega
  | @complete chunk rest ho hq hs =>
    simp only [work, hq, ho, hs, List.flatten_cons, List.length_append, List.length_cons]
    omega
  | @fail chunk rest ho hq hs =>
    simp only [work, hq, ho, List.flatten_cons, List.length_append, List.length_cons]
    split <;> omega
  | finish hst ho hq ha =>
    simp [work, hq, ho]
  | _ => exact Bool.noConfusion ht

/-- As long as the pipe is open and something is queued, the task can go on. -/
theorem exists_task_step {l : StdinLine} (ho : l.queue.pipe = .open)
    (hfits : l.sent ≤ (l.queue.queued.headD []).length) (hq : l.queue.queued ≠ []) :
    ∃ e l', Step l e l' ∧ e.byTask = true ∧ e ≠ .fail := by
  obtain ⟨chunk, rest, hq⟩ := List.exists_cons_of_ne_nil hq
  rw [hq] at hfits
  obtain heq | hlt := Nat.eq_or_lt_of_le hfits
  · exact ⟨_, _, .complete ho hq heq, rfl, Event.noConfusion⟩
  · have hne : chunk.drop l.sent ≠ [] := fun hnil =>
      absurd (List.drop_eq_nil_iff.mp hnil) (Nat.not_le.mpr hlt)
    exact ⟨_, _, .put _ ho hq (List.prefix_rfl) hne, rfl, Event.noConfusion⟩

/-- The task waits: for a chunk, for room in the pipe, or for nothing any more. -/
def AtRest (l : StdinLine) : Prop :=
  ∀ e l', Step l e l' → e.byTask = false

variable {es before after : List Event} {l : StdinLine}

/-- What the pipe got is the oldest accepted chunks, and the beginning of the one that follows. -/
theorem Booked.delivered (h : Booked es l) :
    ∃ rest part, accepted es = written es ++ rest ∧ piped es = (written es).flatten ++ part ∧
      part <+: rest.headD [] := by
  obtain ⟨rest, part, haccepted, hpiped, hpart, -⟩ := h.rest
  rw [← h.full] at haccepted hpiped
  exact ⟨rest, part, haccepted, hpiped, hpart⟩

theorem Booked.written_eq (h : Booked es l) (hp : l.queue.pipe ≠ .failed)
    (hq : l.queue.queued = []) : written es = accepted es := by
  obtain ⟨left, part, haccepted, -, -, hleft⟩ := h.rest
  rw [haccepted, (hleft hp).1, hq, List.append_nil, h.full]

/-- A write is answered well between the spawn and the closing, as long as the pipe works. -/
theorem Steps.answer (h : Steps {} es l) {bytes : Bytes} {answer : Except EngineError Unit}
    (heq : es = before ++ .write bytes answer :: after) :
    answer = .ok () ∧ (Opened before ∧ .fail ∉ before) ∧ ¬ Shut before ∨
      answer = .error .notRunning ∧ ¬ (Opened before ∧ .fail ∉ before) := by
  obtain ⟨l₁, l₂, hbefore, hs⟩ := h.split heq
  obtain ⟨hm, ht, hb⟩ := hbefore.kept
  have hopen : (l₁.queue.accepting = true ∧ l₁.queue.pipe = .open) ↔
      (Opened before ∧ .fail ∉ before) := by
    rw [← hm.accepting, ← hm.failed]
    constructor
    · rintro ⟨ha, ho⟩
      exact ⟨ha, fun hf => PipeEnd.noConfusion (ho.symm.trans hf)⟩
    · rintro ⟨ha, hf⟩
      refine ⟨ha, ?_⟩
      cases hp : l₁.queue.pipe with
      | «open» => rfl
      | closed => exact absurd (ha.symm.trans (ht.drained hp).2) Bool.noConfusion
      | failed => exact absurd hp hf
  cases hs with
  | write _ hr =>
    obtain ⟨ha, ho, hw⟩ | ⟨hno, hw⟩ := write_cases l₁.queue bytes
    · exact .inl ⟨by rw [hw], hopen.mp ⟨ha, ho⟩,
        fun hshut => absurd (ha.symm.trans (hm.shut hshut)) Bool.noConfusion⟩
    · exact .inr ⟨by rw [hw], mt hopen.mpr hno⟩

/-- The task closes the pipe after a closing or the release, with nothing left to write. -/
theorem Steps.finish (h : Steps {} es l) (heq : es = before ++ .finish :: after) :
    written before = accepted before ∧
      ∃ x y, before = x ++ .spawn :: y ∧ (.close ∈ y ∨ .release ∈ y) := by
  obtain ⟨l₁, l₂, hbefore, hs⟩ := h.split heq
  obtain ⟨hm, ht, hb⟩ := hbefore.kept
  cases hs with
  | finish ht ho hq ha =>
    refine ⟨hb.written_eq (ho ▸ PipeEnd.noConfusion) hq, ?_⟩
    obtain ⟨x, y, hxy⟩ := List.append_of_mem (hm.started.mp ht)
    refine ⟨x, y, hxy, ?_⟩
    by_contra hno
    rw [not_or] at hno
    have haccepting := hm.accepting.mpr ⟨x, y, hxy, hno⟩
    exact absurd (haccepting.symm.trans ha) Bool.noConfusion

/-- The task rests only when everything accepted is in the pipe, unless the pipe failed. -/
theorem Steps.at_rest (h : Steps {} es l) (hrest : AtRest l) (hf : .fail ∉ es) :
    written es = accepted es ∧ (Shut es → .finish ∈ es) := by
  obtain ⟨hm, ht, hb⟩ := h.kept
  have hp : l.queue.pipe ≠ .failed := mt hm.failed.mp hf
  have hq : l.queue.queued = [] := by
    cases hpipe : l.queue.pipe with
    | «open» =>
      by_contra hne
      obtain ⟨e, l', hs, ht, -⟩ := exists_task_step hpipe ht.fits hne
      exact absurd (ht.symm.trans (hrest e l' hs)) Bool.noConfusion
    | closed => exact (ht.drained hpipe).1
    | failed => exact absurd hpipe hp
  refine ⟨hb.written_eq hp hq, fun hshut => hm.closed.mp ?_⟩
  cases hpipe : l.queue.pipe with
  | «open» =>
    have hs := Step.finish (hm.started.mpr hshut.spawn_mem) hpipe hq (hm.shut hshut)
    exact absurd (hrest _ _ hs) Bool.noConfusion
  | closed => rfl
  | failed => exact absurd hpipe hp

/-- Whatever the order in which callers and task go on, the pipe gets the accepted chunks in the
order of the calls. A closing takes nothing back: the task goes on until all that was accepted is in
the pipe, or the pipe fails. It closes the pipe only after a closing or the release, and then
nothing is missing. A write is refused before a spawn and after a closing. -/
theorem delivers_in_order {es : List Event} {l : StdinLine} (h : Steps {} es l) :
    (∃ (rest : List Bytes) (part : Bytes), accepted es = written es ++ rest ∧
      piped es = (written es).flatten ++ part ∧ part <+: rest.headD []) ∧
    (∀ l', Step l .close l' → l'.queue.queued = l.queue.queued ∧ l'.sent = l.sent) ∧
    (∀ e l', Step l e l' → e.byTask = true → l'.work < l.work) ∧
    (AtRest l → .fail ∉ es → written es = accepted es ∧ (Shut es → .finish ∈ es)) ∧
    (∀ before after : List Event, es = before ++ .finish :: after →
      written before = accepted before ∧ written es = accepted es ∧
        ∃ x y : List Event, before = x ++ .spawn :: y ∧ (.close ∈ y ∨ .release ∈ y)) ∧
    (l.queue.pipe ≠ .open → .finish ∈ es ∨ .fail ∈ es) ∧
    (∀ (before after : List Event) (bytes : Bytes) (answer : Except EngineError Unit),
      es = before ++ .write bytes answer :: after →
      (answer = .ok () ↔ Opened before ∧ .fail ∉ before) ∧
      (answer ≠ .ok () → answer = .error .notRunning) ∧
      (.spawn ∉ before ∨ Shut before → answer = .error .notRunning)) := by
  obtain ⟨hm, ht, hb⟩ := h.kept
  refine ⟨hb.delivered, ?_, fun e l' hs ht => hs.work_lt ht, h.at_rest, ?_, ?_, ?_⟩
  · intro l' hs
    cases hs
    exact ⟨rfl, rfl⟩
  · intro before after heq
    obtain ⟨hbefore, hclosing⟩ := h.finish heq
    have hfinish : .finish ∈ es := by
      rw [heq]
      exact List.mem_append_right _ List.mem_cons_self
    have hclosed := hm.closed.mpr hfinish
    have hp : l.queue.pipe ≠ .failed := by
      rw [hclosed]
      exact PipeEnd.noConfusion
    exact ⟨hbefore, hb.written_eq hp (ht.drained hclosed).1, hclosing⟩
  · intro hp
    cases hpipe : l.queue.pipe with
    | «open» => exact absurd hpipe hp
    | closed => exact .inl (hm.closed.mp hpipe)
    | failed => exact .inr (hm.failed.mp hpipe)
  · intro before after bytes answer heq
    obtain ⟨rfl, hopen, hshut⟩ | ⟨rfl, hno⟩ := h.answer heq
    · refine ⟨iff_of_true rfl hopen, fun hne => absurd rfl hne, ?_⟩
      rintro (hspawn | hclosed)
      · exact absurd hopen.1.spawn_mem hspawn
      · exact absurd hclosed hshut
    · exact ⟨iff_of_false nofun hno, fun _ => rfl, fun _ => rfl⟩

/-- A chunk is still on its way while the queue is closed, and comes in whole. -/
def closedEarly : List Event :=
  [.spawn, .write [1, 2] (.ok ()), .put [1], .close, .write [3] (.error .notRunning), .put [2],
    .complete [1, 2], .finish]

theorem closedEarly_delivered :
    Steps {} closedEarly
      { used := true
        started := true
        queue := { written := [[1, 2]], pipe := .closed } } ∧
    written closedEarly = [[1, 2]] ∧ written closedEarly = accepted closedEarly := by
  let line (queue : StdinQueue) (sent : Nat) : StdinLine :=
    { used := true, started := true, queue, sent }
  have spawned : Step {} .spawn (line .opened 0) := .spawn rfl rfl
  have accepted : Step (line .opened 0) (.write [1, 2] (.ok ()))
      (line { accepting := true, queued := [[1, 2]] } 0) := .write [1, 2] rfl
  have begun : Step (line { accepting := true, queued := [[1, 2]] } 0) (.put [1])
      (line { accepting := true, queued := [[1, 2]] } 1) :=
    .put [1] rfl rfl ⟨[2], rfl⟩ (List.cons_ne_nil _ _)
  have closed : Step (line { accepting := true, queued := [[1, 2]] } 1) .close
      (line { queued := [[1, 2]] } 1) := .close rfl
  have refused : Step (line { queued := [[1, 2]] } 1) (.write [3] (.error .notRunning))
      (line { queued := [[1, 2]] } 1) := .write [3] rfl
  have ended : Step (line { queued := [[1, 2]] } 1) (.put [2])
      (line { queued := [[1, 2]] } 2) := .put [2] rfl rfl ⟨[], rfl⟩ (List.cons_ne_nil _ _)
  have completed : Step (line { queued := [[1, 2]] } 2) (.complete [1, 2])
      (line { written := [[1, 2]] } 0) := .complete rfl rfl rfl
  have finished : Step (line { written := [[1, 2]] } 0) .finish
      (line { written := [[1, 2]], pipe := .closed } 0) := .finish rfl rfl rfl rfl
  have h : Steps {} closedEarly (line { written := [[1, 2]], pipe := .closed } 0) :=
    (((((((Steps.refl.tail spawned).tail accepted).tail begun).tail closed).tail refused).tail
      ended).tail completed).tail finished
  obtain ⟨-, -, -, -, hfinish, -⟩ := delivers_in_order h
  obtain ⟨-, hall, -⟩ := hfinish closedEarly.dropLast [] rfl
  exact ⟨h, rfl, hall⟩

end StdinLine

end Confine
