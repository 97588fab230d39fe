import Confine.Proofs.Reader.Accounting

/-!
Futures that wait on a reader. Whatever could end a wait gives its signal, so that a future that
sleeps on without a new signal has nothing to wake up for.
-/

namespace Confine

namespace Reader

/-- Only an open reader with a full buffer that asks its producer to wait is not writable. -/
theorem full_of_not_writable {r : Reader} (h : r.writable = false) :
    ∃ capacity, r.policy = .suspend capacity ∧ r.closed = false ∧ max capacity 1 ≤ r.length := by
  rw [writable] at h
  split at h
  · next capacity hp =>
    obtain ⟨hopen, hfull⟩ := Bool.or_eq_false_iff.mp h
    exact ⟨capacity, hp, hopen, Nat.not_lt.mp (of_decide_eq_false hfull)⟩
  · cases h

theorem not_writable_of_full {r : Reader} {capacity : Nat} (hp : r.policy = .suspend capacity)
    (hc : r.closed = false) (hl : max capacity 1 ≤ r.length) : r.writable = false := by
  simp only [writable, hp, hc, Bool.false_or, decide_eq_false_iff_not, Nat.not_lt]
  exact hl

/-- A wait for room that begins now is over at once, unless there is none. -/
theorem pollWritable_new (r : Reader) :
    r.pollWritable none = if r.writable then .ready () else .asleep r.drains := by
  rw [pollWritable, if_neg (Option.some_ne_none r.drains).symm]

/-- An open reader in which no chunk is buffered. -/
def Quiet (r : Reader) : Prop := r.chunks = [] ∧ r.closed = false

/-- Between two moments, those who were waiting are still waiting or were signalled. -/
structure Signals (r r' : Reader) : Prop where
  arrivals_le : r.arrivals ≤ r'.arrivals
  drains_le : r.drains ≤ r'.drains
  quiet : r'.arrivals = r.arrivals → r.Quiet → r'.Quiet
  full : r'.drains = r.drains → r.writable = false → r'.writable = false

theorem Signals.refl (r : Reader) : r.Signals r :=
  ⟨Nat.le_refl _, Nat.le_refl _, fun _ h => h, fun _ h => h⟩

theorem Signals.trans {r₁ r₂ r₃ : Reader} (h : r₁.Signals r₂) (h' : r₂.Signals r₃) :
    r₁.Signals r₃ where
  arrivals_le := Nat.le_trans h.arrivals_le h'.arrivals_le
  drains_le := Nat.le_trans h.drains_le h'.drains_le
  quiet heq hq := by
    have hmiddle : r₂.arrivals = r₁.arrivals :=
      Nat.le_antisymm (heq ▸ h'.arrivals_le) h.arrivals_le
    exact h'.quiet (heq.trans hmiddle.symm) (h.quiet hmiddle hq)
  full heq hf := by
    have hmiddle : r₂.drains = r₁.drains := Nat.le_antisymm (heq ▸ h'.drains_le) h.drains_le
    exact h'.full (heq.trans hmiddle.symm) (h.full hmiddle hf)

theorem append_signals (r : Reader) (bytes : Bytes) :
    (r.append bytes).arrivals = r.arrivals ∧ (r.append bytes).drains = r.drains := by
  rw [append]
  split <;> exact ⟨rfl, rfl⟩

theorem push_signals (r : Reader) (bytes : Bytes) : r.Signals (r.push bytes).1 := by
  cases hc : r.closed with
  | true =>
    rw [push_of_closed r bytes hc]
    exact .refl r
  | false =>
    rw [push_eq bytes hc]
    obtain ⟨harrivals, hdrains⟩ := r.signalled.append_signals (r.kept bytes)
    obtain ⟨hclosed, hpolicy, -⟩ := r.signalled.append_other (r.kept bytes)
    have hlength := r.signalled.append_length (r.kept bytes)
    have hmore : r.arrivals < (r.signalled.append (r.kept bytes)).arrivals := by
      rw [harrivals]
      exact Nat.lt_succ_self _
    refine ⟨Nat.le_of_lt hmore, Nat.le_of_eq hdrains.symm, fun heq => ?quiet, fun _ hfull => ?full⟩
    case quiet => exact absurd heq (Nat.ne_of_gt hmore)
    case full =>
      -- A push leaves the buffer as full as it was.
      obtain ⟨capacity, hp, hopen, hlen⟩ := full_of_not_writable hfull
      apply not_writable_of_full (hpolicy.trans hp) (hclosed.trans hopen)
      apply Nat.le_trans hlen
      apply Nat.le_trans (Nat.le_add_right _ (r.kept bytes).length)
      exact Nat.le_of_eq hlength.symm

theorem close_signals (r : Reader) : r.Signals r.close.1 := by
  rw [close]
  split
  · exact .refl r
  · refine ⟨Nat.le_succ _, Nat.le_succ _, fun heq => ?_, fun heq => ?_⟩
    · exact absurd heq (Nat.succ_ne_self _)
    · exact absurd heq (Nat.succ_ne_self _)

theorem readMax_signals (r : Reader) (max : Option Nat) : r.Signals (r.readMax max).1 := by
  rcases r.readMax_cases max with ⟨-, he⟩ | ⟨front, left, rest, -, hc, -, -, he⟩
  · rw [he]
    exact .refl r
  · rw [he]
    refine ⟨Nat.le_refl _, Nat.le_succ _, fun _ hq => ?_, fun heq => ?_⟩
    · exact absurd (hc.symm.trans hq.1) (List.cons_ne_nil _ _)
    · exact absurd heq (Nat.succ_ne_self _)

theorem drain_signals (r : Reader) : r.Signals r.drain.1 := by
  cases hc : r.chunks with
  | nil =>
    rw [drain_of_nil hc]
    exact .refl r
  | cons chunk rest =>
    have hmore : r.drains < r.drain.1.drains := by
      simp only [drain, hc, List.length_cons]
      omega
    refine ⟨Nat.le_refl _, Nat.le_of_lt hmore, fun _ hq => ?_, fun heq => ?_⟩
    · exact absurd (hc.symm.trans hq.1) (List.cons_ne_nil _ _)
    · exact absurd heq (Nat.ne_of_gt hmore)

theorem pollRead_signals (r : Reader) (asleep : Option Nat) :
    r.Signals (r.pollRead asleep).1 := by
  rcases r.pollRead_reader asleep with h | h
  · rw [h]
    exact .refl r
  · rw [h]
    exact r.readMax_signals none

theorem pollRead_of_quiet {r : Reader} (h : r.Quiet) (asleep : Option Nat) :
    r.pollRead asleep = (r, .asleep r.arrivals) := by
  obtain ⟨hempty, hopen⟩ := h
  have hread : r.read = (r, .empty) := by
    rw [read, readMax_vacant (.inr hempty), vacant, if_neg]
    rw [hopen]
    exact fun h => Bool.noConfusion h.2
  rw [pollRead, hread]
  split <;> rfl

theorem pollRead_of_chunk {r : Reader} {chunk : Bytes} {rest : List Bytes}
    (h : r.chunks = chunk :: rest) {asleep : Option Nat} (due : asleep ≠ some r.arrivals) :
    r.pollRead asleep = ({ r with
      chunks := rest
      length := r.length - chunk.length
      drains := r.drains + 1 }, .ready (some chunk)) := by
  rw [pollRead, if_neg due, read, readMax_none h]

theorem pollRead_of_spent {r : Reader} (hempty : r.chunks = []) (hclosed : r.closed = true)
    {asleep : Option Nat} (due : asleep ≠ some r.arrivals) :
    r.pollRead asleep = (r, .ready none) := by
  have hread : r.read = (r, .closed) := by
    rw [read, readMax_vacant (.inr hempty), vacant, if_pos ⟨hempty, hclosed⟩]
  rw [pollRead, if_neg due, hread]

theorem drain_turnover (r : Reader) : r.Turnover r.drain.1 r.content [] 0 := by
  refine ⟨rfl, rfl, rfl, fun hw => ⟨?_, ?_, ?_⟩⟩
  · simp only [drain, content, List.flatten_nil, List.length_nil, hw.length_eq]
    exact Nat.sub_self _
  · intro chunk hc
    exact absurd hc List.not_mem_nil
  · intro capacity hp
    exact Nat.le_trans (Nat.sub_le _ _) (hw.bounded capacity hp)

/-- Unless it was asleep, a wait for everything takes all there is and goes on until the closing. -/
theorem pollReadToEnd_of_due (r : Reader) (taken : Bytes) {asleep : Option Nat}
    (due : asleep ≠ some r.arrivals) :
    r.pollReadToEnd taken asleep = (r.drain.1, taken ++ r.content,
      if r.closed then .ready () else .asleep r.arrivals) := by
  have hnext : r.drain.2.2 = if r.closed then .closed else .empty := by
    simp only [drain, vacant, true_and]
  rw [pollReadToEnd, if_neg due]
  simp only [hnext]
  cases r.closed <;> rfl

end Reader

/-- A future on a reader: for the next chunk, for everything until the end, or for room. Once it has
been polled it is asleep since so many signals. -/
inductive Waiter where
  | chunk (asleep : Option Nat)
  | all (taken : Bytes) (asleep : Option Nat)
  | room (asleep : Option Nat)

/-- What somebody learns who does something with a reader or a future on it. -/
inductive Reply where
  | nothing
  | pushed (outcome : PushOutcome)
  | closed (first : Bool)
  | read (outcome : ReadOutcome)
  | pending
  /-- The future is over. -/
  | chunk (bytes : Option Bytes)
  | all (bytes : Bytes)
  | room

namespace Waiter

def asleep : Waiter → Option Nat
  | chunk asleep => asleep
  | all _ asleep => asleep
  | room asleep => asleep

/-- The number of signals so far to futures of this kind. -/
def signals (r : Reader) : Waiter → Nat
  | chunk _ => r.arrivals
  | all _ _ => r.arrivals
  | room _ => r.drains

/-- Whether a future is to be polled: it never was, or it was signalled since. -/
def due (r : Reader) (w : Waiter) : Bool := decide (w.asleep ≠ some (w.signals r))

/-- Whether a poll has nothing to do for a future. -/
def Idle (r : Reader) : Waiter → Prop
  | chunk _ => r.Quiet
  | all _ _ => r.Quiet
  | room _ => r.writable = false

/-- Polls a future: it is over with a reply, or goes on. -/
def poll (r : Reader) : Waiter → Reader × (Reply ⊕ Waiter)
  | chunk asleep =>
    match r.pollRead asleep with
    | (r, .ready bytes) => (r, .inl (.chunk bytes))
    | (r, .asleep n) => (r, .inr (.chunk (some n)))
  | all taken asleep =>
    match r.pollReadToEnd taken asleep with
    | (r, taken, .ready ()) => (r, .inl (.all taken))
    | (r, taken, .asleep n) => (r, .inr (.all taken (some n)))
  | room asleep =>
    match r.pollWritable asleep with
    | .ready () => (r, .inl .room)
    | .asleep n => (r, .inr (.room (some n)))

theorem poll_closed (r : Reader) (w : Waiter) : (w.poll r).1.closed = r.closed := by
  cases w with
  | chunk asleep =>
    have hreader : (r.pollRead asleep).1.closed = r.closed := by
      rcases r.pollRead_reader asleep with h | h <;> rw [h]
      exact r.readMax_closed none
    simp only [poll]
    split <;> next he => rwa [he] at hreader
  | all taken asleep =>
    have hreader : (r.pollReadToEnd taken asleep).1.closed = r.closed := by
      rcases r.pollReadToEnd_reader taken asleep with h | h <;> rw [h]
      rfl
    simp only [poll]
    split <;> next he => rwa [he] at hreader
  | room asleep =>
    simp only [poll]
    split <;> rfl

/-- A future that is asleep and has not been signalled since has nothing to do. -/
structure Watched (r : Reader) (w : Waiter) : Prop where
  le : ∀ n, w.asleep = some n → n ≤ w.signals r
  idle : w.due r = false → w.Idle r

theorem due_eq_false {r : Reader} {w : Waiter} :
    w.due r = false ↔ w.asleep = some (w.signals r) := by
  simp only [due, ne_eq, decide_not, Bool.not_eq_false', decide_eq_true_eq]

theorem watched_of_new {r : Reader} {w : Waiter} (h : w.asleep = none) : w.Watched r := by
  refine ⟨fun n hn => ?_, fun hd => ?_⟩
  · rw [h] at hn
    cases hn
  · rw [due_eq_false, h] at hd
    cases hd

theorem watched_of_idle {r : Reader} {w : Waiter} (ha : w.asleep = some (w.signals r))
    (hi : w.Idle r) : w.Watched r := by
  refine ⟨fun n hn => ?_, fun _ => hi⟩
  rw [ha] at hn
  cases hn
  exact Nat.le_refl _

theorem Watched.signals {r r' : Reader} {w : Waiter} (h : w.Watched r) (hs : r.Signals r') :
    w.Watched r' := by
  have hle : w.signals r ≤ w.signals r' := by
    cases w with
    | chunk => exact hs.arrivals_le
    | all => exact hs.arrivals_le
    | room => exact hs.drains_le
  have hidle : w.signals r' = w.signals r → w.Idle r → w.Idle r' := by
    cases w with
    | chunk => exact hs.quiet
    | all => exact hs.quiet
    | room => exact hs.full
  refine ⟨fun n hn => Nat.le_trans (h.le n hn) hle, fun hd => ?_⟩
  -- Asleep since the last of all signals, so that there was none in between.
  have hd' := due_eq_false.mp hd
  have heq : w.signals r' = w.signals r := Nat.le_antisymm (h.le _ hd') hle
  apply hidle heq
  apply h.idle
  rw [due_eq_false, ← heq]
  exact hd'

section Poll

variable {r : Reader} {taken : Bytes} {asleep : Option Nat}

/-- A poll for the next chunk finds one, finds the end, or has nothing to do. -/
theorem Watched.poll_chunk (h : (chunk asleep).Watched r) :
    (∃ bytes rest, r.chunks = bytes :: rest ∧ (chunk asleep).poll r = ({ r with
      chunks := rest
      length := r.length - bytes.length
      drains := r.drains + 1 }, .inl (.chunk (some bytes)))) ∨
    ((r.closed = true ∧ r.chunks = []) ∧ (chunk asleep).poll r = (r, .inl (.chunk none))) ∨
    (r.Quiet ∧ (chunk asleep).poll r = (r, .inr (.chunk (some r.arrivals)))) := by
  have due : ¬r.Quiet → asleep ≠ some r.arrivals := by
    intro hq hs
    exact hq (h.idle (due_eq_false.mpr hs))
  cases hc : r.chunks with
  | cons bytes rest =>
    have hq : ¬r.Quiet := fun hq => List.cons_ne_nil _ _ (hc.symm.trans hq.1)
    refine .inl ⟨bytes, rest, rfl, ?_⟩
    simp only [poll, Reader.pollRead_of_chunk hc (due hq)]
  | nil =>
    right
    cases hclosed : r.closed with
    | true =>
      have hq : ¬r.Quiet := fun hq => Bool.noConfusion (hclosed.symm.trans hq.2)
      refine .inl ⟨⟨rfl, rfl⟩, ?_⟩
      simp only [poll, Reader.pollRead_of_spent hc hclosed (due hq)]
    | false =>
      have hq : r.Quiet := ⟨hc, hclosed⟩
      refine .inr ⟨hq, ?_⟩
      simp only [poll, Reader.pollRead_of_quiet hq]

/-- A poll for everything takes what there is, whether it was due or not. -/
theorem Watched.poll_all (h : (all taken asleep).Watched r) :
    (all taken asleep).poll r = (r.drain.1,
      if r.closed then .inl (.all (taken ++ r.content))
      else .inr (.all (taken ++ r.content) (some r.arrivals))) := by
  by_cases hs : asleep = some r.arrivals
  · obtain ⟨hempty, hopen⟩ : r.Quiet := h.idle (due_eq_false.mpr hs)
    have hcontent : r.content = [] := by
      rw [Reader.content, hempty]
      rfl
    rw [Reader.drain_of_nil hempty, hcontent, List.append_nil, hopen]
    simp only [poll, Reader.pollReadToEnd, hs, Bool.false_eq_true, ↓reduceIte]
  · simp only [poll, r.pollReadToEnd_of_due taken hs]
    cases r.closed <;> rfl

theorem Watched.poll_room (h : (room asleep).Watched r) :
    (room asleep).poll r =
      (r, if r.writable then .inl .room else .inr (.room (some r.drains))) := by
  by_cases hs : asleep = some r.drains
  · have hfull : r.writable = false := h.idle (due_eq_false.mpr hs)
    simp only [poll, Reader.pollWritable, hs, hfull, Bool.false_eq_true, ↓reduceIte]
  · simp only [poll, Reader.pollWritable, hs, ↓reduceIte]
    cases r.writable <;> rfl

end Poll

/-- What a poll takes out of the reader. -/
def takes (r : Reader) : Waiter → Bytes
  | chunk _ => r.chunks.headD []
  | all _ _ => r.content
  | room _ => []

section Watched

variable {r : Reader} {w : Waiter} (h : w.Watched r)

include h

theorem Watched.poll_signals : r.Signals (w.poll r).1 := by
  cases w with
  | chunk asleep =>
    have hpoll := r.pollRead_signals asleep
    simp only [poll]
    split <;> next he => rwa [he] at hpoll
  | all taken asleep =>
    rw [h.poll_all]
    exact r.drain_signals
  | room asleep =>
    rw [h.poll_room]
    exact .refl r

theorem Watched.poll_turnover : r.Turnover (w.poll r).1 (w.takes r) [] 0 := by
  cases w with
  | chunk asleep =>
    rcases h.poll_chunk with ⟨bytes, rest, hc, he⟩ | ⟨⟨-, hc⟩, he⟩ | ⟨⟨hc, -⟩, he⟩
    · have hread := r.readMax_turnover none
      rw [Reader.readMax_none hc] at hread
      rw [he, takes, hc]
      exact hread
    · rw [he, takes, hc]
      exact .refl r
    · rw [he, takes, hc]
      exact .refl r
  | all taken asleep =>
    rw [h.poll_all]
    exact r.drain_turnover
  | room asleep =>
    rw [h.poll_room]
    exact .refl r

/-- A future that goes on after a poll has nothing more to do for now. -/
theorem Watched.poll_pending {w' : Waiter} (hp : (w.poll r).2 = .inr w') :
    w'.Watched (w.poll r).1 := by
  cases w with
  | chunk asleep =>
    rcases h.poll_chunk with ⟨bytes, rest, hc, he⟩ | ⟨hspent, he⟩ | ⟨hq, he⟩
    · rw [he] at hp
      cases hp
    · rw [he] at hp
      cases hp
    · rw [he] at hp ⊢
      cases hp
      exact watched_of_idle rfl hq
  | all taken asleep =>
    rw [h.poll_all] at hp ⊢
    cases hclosed : r.closed with
    | true =>
      rw [hclosed] at hp
      cases hp
    | false =>
      rw [hclosed] at hp
      cases hp
      exact watched_of_idle rfl ⟨rfl, hclosed⟩
  | room asleep =>
    rw [h.poll_room] at hp ⊢
    cases hfull : r.writable with
    | true =>
      rw [hfull] at hp
      cases hp
    | false =>
      rw [hfull] at hp
      cases hp
      exact watched_of_idle rfl hfull

end Watched

end Waiter

/-- A reader and the futures on it, each in its place; one that is over or dropped leaves its place
empty. -/
structure Lobby where
  reader : Reader
  waiters : List (Option Waiter) := []

namespace Lobby

/-- What somebody does with a reader or a future on it. -/
inductive Deed where
  | push (bytes : Bytes)
  | close
  | read (max : Option Nat)
  | awaitChunk
  | awaitAll
  | awaitRoom
  | poll (place : Nat)
  | forget (place : Nat)

def ofPolicy (policy : BufferPolicy) (mark : Nat) : Lobby :=
  { reader := { policy, highWaterMark := mark } }

def waiter? (l : Lobby) (place : Nat) : Option Waiter := l.waiters[place]?.join

/-- Makes a future, which does nothing until it is polled. -/
def enter (l : Lobby) (w : Waiter) : Lobby × Reply :=
  ({ l with waiters := l.waiters ++ [some w] }, .nothing)

def poll (l : Lobby) (place : Nat) (w : Waiter) : Lobby × Reply :=
  match w.poll l.reader with
  | (reader, .inl reply) => ({ reader, waiters := l.waiters.set place none }, reply)
  | (reader, .inr w) => ({ reader, waiters := l.waiters.set place (some w) }, .pending)

def act (l : Lobby) : Deed → Lobby × Reply
  | .push bytes =>
    let (reader, outcome) := l.reader.push bytes
    ({ l with reader }, .pushed outcome)
  | .close =>
    let (reader, first) := l.reader.close
    ({ l with reader }, .closed first)
  | .read max =>
    let (reader, outcome) := l.reader.readMax max
    ({ l with reader }, .read outcome)
  | .awaitChunk => l.enter (.chunk none)
  | .awaitAll => l.enter (.all [] none)
  | .awaitRoom => l.enter (.room none)
  | .poll place =>
    match l.waiter? place with
    | some w => l.poll place w
    | none => (l, .nothing)
  | .forget place => ({ l with waiters := l.waiters.set place none }, .nothing)

def next (l : Lobby) (d : Deed) : Lobby := (l.act d).1

def reply (l : Lobby) (d : Deed) : Reply := (l.act d).2

def run (l : Lobby) (ds : List Deed) : Lobby := ds.foldl next l

/-- Gathers what each deed does to the bytes, in the order of the deeds. -/
def gather (f : Lobby → Deed → Bytes) (l : Lobby) : List Deed → Bytes
  | [] => []
  | d :: ds => f l d ++ (l.next d).gather f ds

def taken (l : Lobby) : Deed → Bytes
  | .read max => (l.reader.readMax max).2.bytes
  | .poll place =>
    match l.waiter? place with
    | some w => w.takes l.reader
    | none => []
  | _ => []

def kept (l : Lobby) : Deed → Bytes
  | .push bytes => if l.reader.closed then [] else l.reader.kept bytes
  | _ => []

def Attended (l : Lobby) : Prop := ∀ w, some w ∈ l.waiters → w.Watched l.reader

theorem attended_ofPolicy (policy : BufferPolicy) (mark : Nat) :
    (ofPolicy policy mark).Attended := by
  intro w hw
  exact absurd hw List.not_mem_nil

section Attended

variable {l : Lobby} (h : l.Attended)

include h

theorem Attended.signals {r : Reader} (hs : l.reader.Signals r) :
    ({ l with reader := r } : Lobby).Attended := by
  intro w hw
  exact (h w hw).signals hs

/-- A new occupant of a place is to be watched over, too. -/
theorem Attended.set (place : Nat) {o : Option Waiter}
    (ho : ∀ w, o = some w → w.Watched l.reader) :
    ({ l with waiters := l.waiters.set place o } : Lobby).Attended := by
  intro w hw
  rcases List.mem_or_eq_of_mem_set hw with hw | hw
  · exact h w hw
  · exact ho w hw.symm

theorem Attended.enter {w : Waiter} (hw : w.asleep = none) : (l.enter w).1.Attended := by
  intro w' hw'
  rcases List.mem_append.mp hw' with hw' | hw'
  · exact h w' hw'
  · cases List.mem_singleton.mp hw'
    exact Waiter.watched_of_new hw

theorem Attended.watched {place : Nat} {w : Waiter} (hw : l.waiter? place = some w) :
    w.Watched l.reader := by
  have hmem := List.mem_of_getElem? (Option.join_eq_some_iff.mp hw)
  exact h w hmem

theorem Attended.poll {place : Nat} {w : Waiter} (hw : l.waiter? place = some w) :
    (l.poll place w).1.Attended := by
  have hwatched := h.watched hw
  have hl := h.signals hwatched.poll_signals
  have hpending : ∀ w', (w.poll l.reader).2 = .inr w' → w'.Watched (w.poll l.reader).1 :=
    fun w' hp => hwatched.poll_pending hp
  rw [Lobby.poll]
  generalize w.poll l.reader = polled at hl hpending ⊢
  obtain ⟨reader, reply | w'⟩ := polled
  · apply hl.set
    intro w' hw'
    cases hw'
  · apply hl.set
    intro w'' hw''
    cases hw''
    exact hpending w' rfl

theorem Attended.next (d : Deed) : (l.next d).Attended := by
  cases d with
  | push bytes => exact h.signals (l.reader.push_signals bytes)
  | close => exact h.signals l.reader.close_signals
  | read max => exact h.signals (l.reader.readMax_signals max)
  | awaitChunk => exact h.enter rfl
  | awaitAll => exact h.enter rfl
  | awaitRoom => exact h.enter rfl
  | poll place =>
    simp only [Lobby.next, act]
    split
    · next w hw => exact h.poll hw
    · exact h
  | forget place =>
    apply h.set
    intro w hw
    cases hw

theorem Attended.turnover (d : Deed) :
    ∃ lost, l.reader.Turnover (l.next d).reader (l.taken d) (l.kept d) lost := by
  cases d with
  | push bytes =>
    cases hc : l.reader.closed with
    | true =>
      refine ⟨0, ?_⟩
      simp only [Lobby.next, act, taken, kept, hc, l.reader.push_of_closed bytes hc, ↓reduceIte]
      exact .refl _
    | false =>
      refine ⟨bytes.length - (l.reader.kept bytes).length, ?_⟩
      simp only [kept, hc, Bool.false_eq_true, ↓reduceIte]
      exact l.reader.push_turnover bytes hc
  | close => exact ⟨0, l.reader.close_turnover⟩
  | read max => exact ⟨0, l.reader.readMax_turnover max⟩
  | poll place =>
    refine ⟨0, ?_⟩
    simp only [Lobby.next, act, taken, kept]
    split
    · next w hw =>
      have hturnover := (h.watched hw).poll_turnover
      rw [Lobby.poll]
      split <;> next he => rwa [he] at hturnover
    · exact .refl _
  | _ => exact ⟨0, .refl _⟩

end Attended

theorem Attended.run {l : Lobby} (h : l.Attended) (ds : List Deed) : (l.run ds).Attended := by
  induction ds generalizing l with
  | nil => exact h
  | cons d ds ih => exact ih (h.next d)

theorem Attended.run_turnover {l : Lobby} (h : l.Attended) (ds : List Deed) :
    ∃ lost, l.reader.Turnover (l.run ds).reader (l.gather taken ds) (l.gather kept ds) lost := by
  induction ds generalizing l with
  | nil => exact ⟨0, .refl _⟩
  | cons d ds ih =>
    obtain ⟨lost, hfirst⟩ := h.turnover d
    obtain ⟨lost', hrest⟩ := ih (h.next d)
    exact ⟨lost + lost', hfirst.trans hrest⟩

theorem act_poll {l : Lobby} {place : Nat} {w : Waiter} (hw : l.waiter? place = some w) :
    l.act (.poll place) = l.poll place w := by
  simp only [act, hw]

section Replies

variable {l : Lobby} {place : Nat} {taken : Bytes} {asleep : Option Nat} (h : l.Attended)

include h

/-- A future for the next chunk gets it as soon as there is one, and the end when there will be
none. -/
theorem Attended.reply_chunk (hw : l.waiter? place = some (.chunk asleep)) :
    (∀ bytes, l.reply (.poll place) = .chunk (some bytes) ↔
      ∃ rest, l.reader.chunks = bytes :: rest) ∧
    (l.reply (.poll place) = .chunk none ↔ l.reader.closed = true ∧ l.reader.chunks = []) ∧
    (l.reply (.poll place) = .pending ↔ l.reader.closed = false ∧ l.reader.chunks = []) := by
  rw [reply, act_poll hw, Lobby.poll]
  rcases (h.watched hw).poll_chunk with ⟨bytes, rest, hc, he⟩ | ⟨⟨hclosed, hc⟩, he⟩ |
    ⟨⟨hc, hopen⟩, he⟩
  · simp [he, hc]
  · simp [he, hc, hclosed]
  · simp [he, hc, hopen]

theorem Attended.reply_all (hw : l.waiter? place = some (.all taken asleep)) :
    (∀ bytes, l.reply (.poll place) = .all bytes ↔
      l.reader.closed = true ∧ bytes = taken ++ l.reader.content) ∧
    (l.reply (.poll place) = .pending ↔ l.reader.closed = false) := by
  rw [reply, act_poll hw, Lobby.poll, (h.watched hw).poll_all]
  cases l.reader.closed with
  | true => simp [eq_comm]
  | false => simp

theorem Attended.reply_room (hw : l.waiter? place = some (.room asleep)) :
    (l.reply (.poll place) = .room ↔ l.reader.writable = true) ∧
    (l.reply (.poll place) = .pending ↔ l.reader.writable = false) := by
  rw [reply, act_poll hw, Lobby.poll, (h.watched hw).poll_room]
  cases l.reader.writable <;> simp

end Replies

/-- No wake-up is lost. A future that is asleep without a signal since its last poll has nothing to
wake up for, so that everyone who could go on is to be polled. What a poll finds does not depend on
the signals at all, and the bytes come out in the order in which they were kept. -/
theorem no_lost_wakeup (policy : BufferPolicy) (mark : Nat) (ds : List Deed) :
    let start := ofPolicy policy mark
    let l := start.run ds
    let r := l.reader
    (∀ place, l.waiter? place = some (.chunk (some r.arrivals)) →
      r.closed = false ∧ r.content = [] ∧ r.length = 0) ∧
    (∀ place taken, l.waiter? place = some (.all taken (some r.arrivals)) →
      r.closed = false ∧ r.content = [] ∧ r.length = 0) ∧
    (∀ place, l.waiter? place = some (.room (some r.drains)) →
      ∃ capacity, policy = .suspend capacity ∧ r.closed = false ∧ max capacity 1 ≤ r.length) ∧
    (∀ place w, l.waiter? place = some w → ¬w.Idle r → w.due r = true) ∧
    (∀ place asleep, l.waiter? place = some (.chunk asleep) →
      (∀ bytes, l.reply (.poll place) = .chunk (some bytes) ↔ ∃ rest, r.chunks = bytes :: rest) ∧
      (l.reply (.poll place) = .chunk none ↔ r.closed = true ∧ r.chunks = []) ∧
      (l.reply (.poll place) = .pending ↔ r.closed = false ∧ r.chunks = [])) ∧
    (∀ place taken asleep, l.waiter? place = some (.all taken asleep) →
      (∀ bytes, l.reply (.poll place) = .all bytes ↔
        r.closed = true ∧ bytes = taken ++ r.content) ∧
      (l.reply (.poll place) = .pending ↔ r.closed = false)) ∧
    (∀ place asleep, l.waiter? place = some (.room asleep) →
      (l.reply (.poll place) = .room ↔ r.writable = true) ∧
      (l.reply (.poll place) = .pending ↔ r.writable = false)) ∧
    start.gather taken ds ++ r.content = start.gather kept ds := by
  intro start l r
  have hstart : start.Attended := attended_ofPolicy policy mark
  have hl : l.Attended := hstart.run ds
  obtain ⟨lost, hbooks⟩ := hstart.run_turnover ds
  have hwell : r.WellFormed := by
    apply hbooks.wellFormed
    refine ⟨rfl, fun chunk hc => ?_, fun capacity _ => Nat.zero_le capacity⟩
    exact absurd hc List.not_mem_nil
  have hquiet (hq : r.Quiet) : r.closed = false ∧ r.content = [] ∧ r.length = 0 := by
    have hcontent : r.content = [] := by
      rw [Reader.content, hq.1]
      rfl
    refine ⟨hq.2, hcontent, ?_⟩
    rw [hwell.length_eq, hcontent]
    rfl
  have hidle (place : Nat) (w : Waiter) (hw : l.waiter? place = some w)
      (hs : w.asleep = some (w.signals r)) : w.Idle r :=
    (hl.watched hw).idle (Waiter.due_eq_false.mpr hs)
  refine ⟨fun place hw => hquiet (hidle place _ hw rfl),
    fun place taken hw => hquiet (hidle place _ hw rfl), fun place hw => ?room,
    fun place w hw hbusy => ?due, fun place asleep hw => hl.reply_chunk hw,
    fun place taken asleep hw => hl.reply_all hw, fun place asleep hw => hl.reply_room hw,
    hbooks.content⟩
  case room =>
    obtain ⟨capacity, hp, hopen, hlen⟩ := Reader.full_of_not_writable (hidle place _ hw rfl)
    have hpolicy : r.policy = policy := hbooks.policy
    exact ⟨capacity, hpolicy.symm.trans hp, hopen, hlen⟩
  case due =>
    cases hd : w.due r with
    | true => rfl
    | false => exact absurd ((hl.watched hw).idle hd) hbusy

/-- Two wait for one chunk. The one that comes too late sleeps again and has nothing to wake up for,
while the writer, who slept before the chunk was taken, is to be polled. -/
theorem rivals_for_one_chunk :
    let l := (ofPolicy (.suspend 1) 1).run [.awaitChunk, .awaitChunk, .awaitRoom, .poll 0, .poll 1,
      .push [7], .poll 2, .poll 0, .poll 1]
    (l.waiter? 1 = some (.chunk (some l.reader.arrivals)) ∧ l.reader.content = []) ∧
      l.waiter? 2 = some (.room (some 0)) ∧ Waiter.due l.reader (.room (some 0)) = true := by
  intro l
  have hreader : l.waiter? 1 = some (.chunk (some l.reader.arrivals)) := rfl
  have hwriter : l.waiter? 2 = some (.room (some 0)) := rfl
  have hroom : ¬Waiter.Idle l.reader (.room (some 0)) := Bool.noConfusion
  obtain ⟨hquiet, -, -, hdue, -⟩ := no_lost_wakeup (.suspend 1) 1 [.awaitChunk, .awaitChunk,
    .awaitRoom, .poll 0, .poll 1, .push [7], .poll 2, .poll 0, .poll 1]
  exact ⟨⟨hreader, (hquiet 1 hreader).2.1⟩, hwriter, hdue 2 _ hwriter hroom⟩

end Lobby

end Confine
