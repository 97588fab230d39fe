import Confine.Proofs.Reader.Waking
import Mathlib.Algebra.GroupWithZero.Nat

/-!
A reader is a queue of bytes with an end. The chunks in which the bytes lie and the counter of their
length are its own affair: whatever is asked of a reader, a plain row of bytes answers the same.
-/

namespace Confine

/-- What somebody asks of a reader. -/
inductive Request where
  | push (bytes : Bytes)
  | close
  | read (max : Option Nat)
deriving DecidableEq

namespace PushOutcome

/-- How many bytes of a pushed chunk were kept. -/
def accepted (length : Nat) : PushOutcome → Nat
  | buffered _ => length
  | truncated accepted _ => accepted
  | closed => 0

/-- How many bytes of a pushed chunk were dropped for want of room. -/
def lost : PushOutcome → Nat
  | truncated _ dropped => dropped
  | _ => 0

end PushOutcome

/-- A row of bytes with an end, and the number of bytes that were left out of it. -/
structure ByteQueue where
  bytes : Bytes := []
  closed : Bool := false
  dropped : Nat := 0

namespace ByteQueue

/-- How many of `n` more bytes are kept under a policy. -/
def keeps (q : ByteQueue) (policy : BufferPolicy) (n : Nat) : Nat :=
  match policy with
  | .dropNewest capacity => min n (capacity - q.bytes.length)
  | _ => n

/-- Adds the bytes that are kept, and counts the others; a closed queue takes nothing. -/
def push (q : ByteQueue) (policy : BufferPolicy) (bytes : Bytes) : ByteQueue :=
  if q.closed then q
  else { q with
    bytes := q.bytes ++ bytes.take (q.keeps policy bytes.length)
    dropped := q.dropped + (bytes.length - q.keeps policy bytes.length) }

theorem keeps_le (q : ByteQueue) (policy : BufferPolicy) (n : Nat) : q.keeps policy n ≤ n := by
  unfold keeps
  split
  · exact Nat.min_le_left _ _
  · exact Nat.le_refl n

theorem push_of_closed {q : ByteQueue} (h : q.closed = true) (policy : BufferPolicy)
    (bytes : Bytes) : q.push policy bytes = q := by
  rw [push, if_pos h]

theorem push_of_open {q : ByteQueue} (h : q.closed = false) (policy : BufferPolicy)
    (bytes : Bytes) : q.push policy bytes = { q with
      bytes := q.bytes ++ bytes.take (q.keeps policy bytes.length)
      dropped := q.dropped + (bytes.length - q.keeps policy bytes.length) } := by
  rw [push, h]
  rfl

/-- How a queue answers a request, and what becomes of it. -/
inductive Step (policy : BufferPolicy) (q : ByteQueue) : Request → Reply → ByteQueue → Prop
  | pushed (bytes : Bytes) (outcome : PushOutcome) (h : q.closed = false)
      (accepted : outcome.accepted bytes.length = q.keeps policy bytes.length)
      (lost : outcome.lost = bytes.length - q.keeps policy bytes.length) :
      Step policy q (.push bytes) (.pushed outcome) (q.push policy bytes)
  | refused (bytes : Bytes) (h : q.closed = true) :
      Step policy q (.push bytes) (.pushed .closed) q
  | closed : Step policy q .close (.closed !q.closed) { q with closed := true }
  /-- A read takes some of the bytes in front, but not more than it asks for. -/
  | took (max : Option Nat) (chunk rest : Bytes) (h : q.bytes = chunk ++ rest)
      (nonempty : chunk ≠ []) (bounded : ∀ m, max = some m → chunk.length ≤ m) :
      Step policy q (.read max) (.read (.data chunk)) { q with bytes := rest }
  | spent (max : Option Nat) (h : q.closed = true) (empty : q.bytes = []) :
      Step policy q (.read max) (.read .closed) q
  | idle (max : Option Nat) (h : ¬(q.closed = true ∧ q.bytes = []))
      (wanting : max = some 0 ∨ q.bytes = []) : Step policy q (.read max) (.read .empty) q

/-- Requests that are answered one after the other. -/
inductive Steps (policy : BufferPolicy) :
    ByteQueue → List Request → List Reply → ByteQueue → Prop
  | nil (q : ByteQueue) : Steps policy q [] [] q
  | cons {q q' q'' : ByteQueue} {t : Request} {ts : List Request} {reply : Reply}
      {replies : List Reply} (head : q.Step policy t reply q')
      (tail : Steps policy q' ts replies q'') : Steps policy q (t :: ts) (reply :: replies) q''

end ByteQueue

namespace Reader

/-- The bytes of a reader as a queue. -/
def queue (r : Reader) : ByteQueue := ⟨r.content, r.closed, r.dropped⟩

def act (r : Reader) : Request → Reader × Reply
  | .push bytes => ((r.push bytes).1, .pushed (r.push bytes).2)
  | .close => (r.close.1, .closed r.close.2)
  | .read max => ((r.readMax max).1, .read (r.readMax max).2)

def next (r : Reader) (t : Request) : Reader := (r.act t).1

def reply (r : Reader) (t : Request) : Reply := (r.act t).2

def run (r : Reader) (ts : List Request) : Reader := ts.foldl next r

/-- The answers to some requests, one after the other. -/
def replies (r : Reader) : List Request → List Reply
  | [] => []
  | t :: ts => r.reply t :: (r.next t).replies ts

theorem vacant_ne_data (r : Reader) (chunk : Bytes) : r.vacant ≠ .data chunk := by
  rw [vacant]
  split <;> exact ReadOutcome.noConfusion

theorem readMax_shrinks {r r' : Reader} {chunk : Bytes} {max : Option Nat}
    (h : r.readMax max = (r', .data chunk)) :
    r'.content.length + r'.chunks.length < r.content.length + r.chunks.length := by
  rcases r.readMax_cases max with ⟨-, he⟩ | ⟨front, left, rest, -, hc, hfront, -, he⟩
  · rw [he] at h
    exact absurd (congrArg Prod.snd h) (r.vacant_ne_data chunk)
  · rw [he] at h
    cases h
    simp only [content, hc, flatten_left, List.flatten_cons, List.length_append, List.length_cons]
    split
    · omega
    · next hleft =>
      have hpos : 0 < chunk.length := List.length_pos_iff.mpr fun hf => hleft (hfront hf)
      rw [List.length_cons]
      omega

/-- What the reads of a loop ask for, one after the other; none of them asks for nothing. -/
structure Bounds where
  bound : Nat → Option Nat
  pos : ∀ i, bound i ≠ some 0

/-- The bounds behind the first. -/
def Bounds.tail (b : Bounds) : Bounds := ⟨fun i => b.bound (i + 1), fun i => b.pos (i + 1)⟩

/-- What a loop of reads leaves and gets, up to the first read without any data. -/
structure Drained where
  reader : Reader
  chunks : List Bytes
  outcome : ReadOutcome

/-- Reads until there is nothing more. -/
def drainLoop (r : Reader) (b : Bounds) : Drained :=
  match _h : r.readMax (b.bound 0) with
  | (r', .data chunk) =>
    let rest := r'.drainLoop b.tail
    { rest with chunks := chunk :: rest.chunks }
  | (r', outcome) => ⟨r', [], outcome⟩
termination_by r.content.length + r.chunks.length
decreasing_by exact readMax_shrinks _h

theorem drainLoop_of_data {r r' : Reader} {b : Bounds} {chunk : Bytes}
    (h : r.readMax (b.bound 0) = (r', .data chunk)) : r.drainLoop b =
      { r'.drainLoop b.tail with chunks := chunk :: (r'.drainLoop b.tail).chunks } := by
  rw [drainLoop]
  split
  · next h' =>
    rw [h] at h'
    cases h'
    rfl
  · next hne h' =>
    rw [h] at h'
    cases h'
    exact absurd rfl (hne chunk)

theorem drainLoop_of_empty {r : Reader} (h : r.chunks = []) (b : Bounds) :
    r.drainLoop b = ⟨r, [], r.vacant⟩ := by
  have hv : r.readMax (b.bound 0) = (r, r.vacant) := readMax_vacant (.inr h)
  rw [drainLoop]
  split
  · next chunk h' =>
    rw [hv] at h'
    exact absurd (congrArg Prod.snd h') (r.vacant_ne_data chunk)
  · next h' =>
    rw [hv] at h'
    cases h'
    rfl

/-- What a push keeps, and what it says about that. -/
theorem push_outcome {r : Reader} (h : r.closed = false) (bytes : Bytes) :
    (r.push bytes).2.accepted bytes.length = (r.kept bytes).length ∧
      (r.push bytes).2.lost = bytes.length - (r.kept bytes).length := by
  rcases push_cases bytes h with ⟨hkept, hpush⟩ | ⟨capacity, hp, hover, hkept, hpush⟩
  · rw [hpush, hkept, Nat.sub_self]
    exact ⟨rfl, rfl⟩
  · have hroom : r.room capacity ≤ bytes.length := by
      rw [room]
      omega
    rw [hpush, hkept, List.length_take, Nat.min_eq_left hroom]
    exact ⟨rfl, rfl⟩

theorem WellFormed.kept_eq {r : Reader} (h : r.WellFormed) (bytes : Bytes) :
    r.kept bytes = bytes.take (r.queue.keeps r.policy bytes.length) := by
  rw [kept]
  cases hp : r.policy with
  | dropNewest capacity =>
    simp only [ByteQueue.keeps, queue, room, h.length_eq]
    rw [Nat.min_comm]
    exact List.take_eq_take_min
  | _ => exact (List.take_length).symm

theorem WellFormed.kept_length {r : Reader} (h : r.WellFormed) (bytes : Bytes) :
    (r.kept bytes).length = r.queue.keeps r.policy bytes.length := by
  rw [h.kept_eq, List.length_take]
  exact Nat.min_eq_left (r.queue.keeps_le r.policy bytes.length)

theorem WellFormed.push_queue {r : Reader} (h : r.WellFormed) (bytes : Bytes) :
    (r.push bytes).1.queue = r.queue.push r.policy bytes := by
  cases hc : r.closed with
  | true =>
    rw [push_of_closed r bytes hc]
    exact (ByteQueue.push_of_closed hc r.policy bytes).symm
  | false =>
    have hcontent : (r.push bytes).1.content = r.content ++ r.kept bytes :=
      (r.push_turnover bytes hc).content
    have hdropped := (r.push_turnover bytes hc).dropped
    have hopen : r.queue.closed = false := hc
    rw [ByteQueue.push_of_open hopen, ← h.kept_eq, ← h.kept_length]
    rw [queue, hcontent, hdropped, push_closed]
    rfl

theorem turnover_next (r : Reader) (t : Request) :
    ∃ taken kept lost, r.Turnover (r.next t) taken kept lost := by
  cases t with
  | push bytes =>
    cases hc : r.closed with
    | true =>
      have hsame : r.next (.push bytes) = r := congrArg Prod.fst (r.push_of_closed bytes hc)
      rw [hsame]
      exact ⟨_, _, _, .refl r⟩
    | false => exact ⟨_, _, _, r.push_turnover bytes hc⟩
  | close => exact ⟨_, _, _, r.close_turnover⟩
  | read max => exact ⟨_, _, _, r.readMax_turnover max⟩

theorem WellFormed.next {r : Reader} (h : r.WellFormed) (t : Request) : (r.next t).WellFormed := by
  obtain ⟨_, _, _, hturnover⟩ := r.turnover_next t
  exact hturnover.wellFormed h

theorem next_policy (r : Reader) (t : Request) : (r.next t).policy = r.policy := by
  obtain ⟨_, _, _, hturnover⟩ := r.turnover_next t
  exact hturnover.policy

theorem next_mark (r : Reader) (t : Request) : (r.next t).highWaterMark = r.highWaterMark := by
  cases t with
  | push bytes =>
    cases hc : r.closed with
    | true => rw [next, act, push_of_closed r bytes hc]
    | false =>
      rw [next, act, push_eq bytes hc]
      simp only [append]
      split <;> rfl
  | close =>
    rw [next, act, close]
    split <;> rfl
  | read max => rcases r.readMax_cases max with ⟨-, he⟩ | ⟨_, _, _, -, -, -, -, he⟩ <;>
      rw [next, act, he]

theorem WellFormed.step_push {r : Reader} (h : r.WellFormed) (bytes : Bytes) :
    r.queue.Step r.policy (.push bytes) (r.reply (.push bytes)) (r.next (.push bytes)).queue := by
  cases hc : r.closed with
  | true =>
    rw [Reader.next, reply, act, push_of_closed r bytes hc]
    exact .refused bytes hc
  | false =>
    obtain ⟨haccepted, hlost⟩ := push_outcome hc bytes
    rw [h.kept_length] at haccepted hlost
    have hq : (r.next (.push bytes)).queue = r.queue.push r.policy bytes := h.push_queue bytes
    rw [hq]
    exact .pushed bytes (r.push bytes).2 hc haccepted hlost

theorem step_close (r : Reader) :
    r.queue.Step r.policy .close (r.reply .close) (r.next .close).queue := by
  have hreply : r.reply .close = .closed !r.queue.closed := by
    simp only [reply, act, close, queue]
    cases r.closed <;> rfl
  have hq : (r.next .close).queue = { r.queue with closed := true } := by
    simp only [next, act, close, queue]
    split
    · next hc => rw [hc]
    · rfl
  rw [hreply, hq]
  exact .closed

theorem WellFormed.step_read {r : Reader} (h : r.WellFormed) (max : Option Nat) :
    r.queue.Step r.policy (.read max) (r.reply (.read max)) (r.next (.read max)).queue := by
  rcases r.readMax_cases max with ⟨hv, he⟩ | ⟨front, left, rest, -, hc, hfront, hbound, he⟩
  · have hempty : r.chunks = [] ↔ r.queue.bytes = [] := h.chunks_eq_nil
    rw [Reader.next, reply, act, he, vacant]
    split
    · next hs => exact .spent max hs.2 (hempty.mp hs.1)
    · next hs =>
      exact .idle max (fun hq => hs ⟨hempty.mpr hq.2, hq.1⟩) (hv.imp_right hempty.mp)
  · have hcontent : r.queue.bytes = front ++ (left ++ rest.flatten) := by
      rw [queue, content, hc, List.flatten_cons, List.append_assoc]
    have hne : front ≠ [] := by
      intro hf
      have hchunk := h.nonempty (front ++ left) (hc ▸ List.mem_cons_self)
      rw [hf, hfront hf] at hchunk
      exact hchunk rfl
    have hreply : r.reply (.read max) = .read (.data front) := by rw [reply, act, he]
    have hq : (r.next (.read max)).queue = { r.queue with bytes := left ++ rest.flatten } := by
      rw [Reader.next, act, he, ← flatten_left]
      rfl
    rw [hreply, hq]
    exact .took max front _ hcontent hne hbound

/-- A reader answers like the queue of its bytes. -/
theorem WellFormed.step {r : Reader} (h : r.WellFormed) (t : Request) :
    r.queue.Step r.policy t (r.reply t) (r.next t).queue := by
  cases t with
  | push bytes => exact h.step_push bytes
  | close => exact r.step_close
  | read max => exact h.step_read max

theorem WellFormed.steps {r : Reader} (h : r.WellFormed) (ts : List Request) :
    ByteQueue.Steps r.policy r.queue ts (r.replies ts) (r.run ts).queue := by
  induction ts generalizing r with
  | nil => exact .nil r.queue
  | cons t ts ih =>
    have hrest := ih (h.next t)
    rw [next_policy] at hrest
    exact .cons (h.step t) hrest

theorem WellFormed.run {r : Reader} (h : r.WellFormed) (ts : List Request) :
    (r.run ts).WellFormed := by
  induction ts generalizing r with
  | nil => exact h
  | cons t ts ih => exact ih (h.next t)

theorem run_policy (r : Reader) (ts : List Request) : (r.run ts).policy = r.policy := by
  induction ts generalizing r with
  | nil => rfl
  | cons t ts ih => exact (ih (r.next t)).trans (r.next_policy t)

theorem wellFormed_new (policy : BufferPolicy) (mark : Nat) :
    ({ policy, highWaterMark := mark } : Reader).WellFormed :=
  ⟨rfl, fun _ h => absurd h List.not_mem_nil, fun _ _ => Nat.zero_le _⟩

/-- A read that gets data takes it from the front, and nothing else changes. -/
theorem WellFormed.of_data {r r' : Reader} {max : Option Nat} {chunk : Bytes} (h : r.WellFormed)
    (hread : r.readMax max = (r', .data chunk)) :
    r'.WellFormed ∧ r.content = chunk ++ r'.content ∧ chunk ≠ [] ∧
      (∀ m, max = some m → chunk.length ≤ m) ∧ r'.length + chunk.length = r.length ∧
      r'.queue = { r.queue with bytes := r'.content } := by
  have hreply : r.reply (.read max) = .read (.data chunk) := by rw [reply, act, hread]
  have hnext : r.next (.read max) = r' := by rw [Reader.next, act, hread]
  have hstep := h.step (.read max)
  have h' := h.next (.read max)
  rw [hreply, hnext] at hstep
  rw [hnext] at h'
  generalize hq : r'.queue = q at hstep
  cases hstep with
  | took _ _ rest hbytes nonempty bounded =>
    have hrest : r'.content = rest := congrArg ByteQueue.bytes hq
    have hcontent : r.content = chunk ++ r'.content := hbytes.trans (congrArg _ hrest.symm)
    refine ⟨h', hcontent, nonempty, bounded, ?_, ?_⟩
    · rw [h'.length_eq, h.length_eq, hcontent, List.length_append, Nat.add_comm]
    · rw [hrest]

/-- What a loop of reads has done when it ends. -/
structure Emptied (r : Reader) (d : Drained) : Prop where
  chunks_le : d.chunks.length ≤ r.length
  text : d.chunks.flatten = r.content
  outcome : d.outcome = if r.closed then .closed else .empty
  queue : d.reader.queue = { r.queue with bytes := [] }
  wellFormed : d.reader.WellFormed
  policy : d.reader.policy = r.policy
  highWaterMark : d.reader.highWaterMark = r.highWaterMark

theorem WellFormed.emptied {r : Reader} (h : r.WellFormed) (b : Bounds) :
    r.Emptied (r.drainLoop b) := by
  induction r, b using drainLoop.induct with
  | case1 r b r' chunk hread ih =>
    obtain ⟨h', hcontent, hne, -, hlength, hqueue⟩ := h.of_data hread
    have hclosed : r'.closed = r.closed := congrArg ByteQueue.closed hqueue
    have hpolicy := r.next_policy (.read (b.bound 0))
    have hmark := r.next_mark (.read (b.bound 0))
    have hrest := ih h'
    have hpos := List.length_pos_iff.mpr hne
    rw [Reader.next, act, hread] at hpolicy hmark
    rw [drainLoop_of_data hread]
    refine ⟨?_, ?_, ?_, ?_, hrest.wellFormed, hrest.policy.trans hpolicy,
      hrest.highWaterMark.trans hmark⟩
    · have hle := hrest.chunks_le
      simp only [List.length_cons]
      omega
    · rw [List.flatten_cons, hrest.text, hcontent]
    · rw [← hclosed]
      exact hrest.outcome
    · rw [hrest.queue, hqueue]
  | case2 r b r' outcome hnone hread =>
    -- Only an empty reader gives no data to a read that asks for some.
    have hempty : r.chunks = [] := by
      rcases r.readMax_cases (b.bound 0) with ⟨hv, -⟩ | ⟨front, left, rest, -, -, -, -, he⟩
      · exact hv.resolve_left (b.pos 0)
      · rw [he] at hread
        cases hread
        exact absurd rfl (hnone front)
    have hcontent : r.content = [] := h.chunks_eq_nil.mp hempty
    rw [drainLoop_of_empty hempty]
    refine ⟨Nat.zero_le _, hcontent.symm, ?_, ?_, h, rfl, rfl⟩
    · simp only [vacant, hempty, true_and]
    · simp only [Reader.queue, hcontent]

theorem next_closed (r : Reader) (t : Request) :
    (r.next t).closed = (r.closed || decide (t = .close)) := by
  cases t with
  | push bytes => exact (r.push_closed bytes).trans (Bool.or_false _).symm
  | close => exact r.close_closed.trans (Bool.or_true _).symm
  | read max => exact (r.readMax_closed max).trans (Bool.or_false _).symm

theorem run_closed (r : Reader) (ts : List Request) :
    (r.run ts).closed = (r.closed || decide (.close ∈ ts)) := by
  induction ts generalizing r with
  | nil => exact (Bool.or_false _).symm
  | cons t ts ih =>
    have hrest := ih (r.next t)
    rw [next_closed, Bool.or_assoc, ← Bool.decide_or] at hrest
    rw [run, List.foldl_cons, ← run, hrest]
    simp only [List.mem_cons, eq_comm]

/-- A reader is a queue of bytes: from the start, whatever it is asked, it answers like the queue of
its bytes. Its counter is the total length of its chunks, none of which is empty, and a dropping
reader stays within its capacity. A loop of reads comes to an end after at most as many chunks as
there are bytes, and gets all of them. -/
theorem refines_queue (policy : BufferPolicy) (mark : Nat) (ts : List Request) :
    let start : Reader := { policy, highWaterMark := mark }
    let r := start.run ts
    ByteQueue.Steps policy {} ts (start.replies ts) r.queue ∧
    r.length = (r.chunks.map List.length).sum ∧
    (∀ chunk ∈ r.chunks, chunk ≠ []) ∧
    (∀ capacity, policy = .dropNewest capacity → r.length ≤ capacity) ∧
    (r.closed = true → ∀ bytes, r.push bytes = (r, .closed)) ∧
    (∀ max, match r.readMax max with
      | (r', .data chunk) => r.content = chunk ++ r'.content ∧ chunk ≠ [] ∧
        (∀ m, max = some m → chunk.length ≤ m) ∧ r'.length + chunk.length = r.length
      | (r', .closed) => r' = r ∧ r.closed = true ∧ r.content = []
      | (r', .empty) => r' = r ∧ ¬(r.closed = true ∧ r.content = []) ∧
        (max = some 0 ∨ r.content = [])) ∧
    (r.close.2 = true ↔ .close ∉ ts) ∧
    ∀ b, (r.drainLoop b).chunks.length ≤ r.length ∧ (r.drainLoop b).chunks.flatten = r.content ∧
      (r.drainLoop b).outcome = if r.closed then .closed else .empty := by
  intro start r
  have hstart : start.WellFormed := wellFormed_new policy mark
  have hr : r.WellFormed := hstart.run ts
  have hpolicy : r.policy = policy := start.run_policy ts
  have hclosed : r.closed = decide (.close ∈ ts) :=
    (start.run_closed ts).trans (Bool.false_or _)
  refine ⟨hstart.steps ts, ?counter, hr.nonempty, fun capacity hp => ?bounded,
    fun hc bytes => r.push_of_closed bytes hc, fun max => ?read, ?close, fun b => ?drain⟩
  case counter => rw [hr.length_eq, content, List.length_flatten]
  case bounded => exact hr.bounded capacity (hpolicy.trans hp)
  case read =>
    rcases r.readMax_cases max with ⟨hv, he⟩ | ⟨front, left, rest, -, -, -, -, he⟩
    · rw [he, vacant]
      by_cases hs : r.chunks = [] ∧ r.closed = true
      · rw [if_pos hs]
        exact ⟨rfl, hs.2, hr.chunks_eq_nil.mp hs.1⟩
      · rw [if_neg hs]
        refine ⟨rfl, fun h => hs ⟨hr.chunks_eq_nil.mpr h.2, h.1⟩, hv.imp_right hr.chunks_eq_nil.mp⟩
    · obtain ⟨-, hcontent, hfront, hbound, hlength, -⟩ := hr.of_data he
      rw [he]
      exact ⟨hcontent, hfront, hbound, hlength⟩
  case close =>
    have hfirst : r.close.2 = !r.closed := by
      rw [Reader.close]
      cases r.closed <;> rfl
    rw [hfirst, hclosed, Bool.not_eq_true', decide_eq_false_iff_not]
  case drain =>
    have hd := hr.emptied b
    exact ⟨hd.chunks_le, hd.text, hd.outcome⟩

end Reader

end Confine
