import Confine.Proofs.Reader.Queue

/-!
How a stream is cut into chunks makes no difference to its reader. Pushing two chunks is pushing one
that is made of both, so that two ways of cutting the same bytes look alike wherever they are read to
the end at the same places.
-/

namespace Confine

namespace ByteQueue

theorem push_nil (q : ByteQueue) (policy : BufferPolicy) : q.push policy [] = q := by
  cases hc : q.closed with
  | true => exact push_of_closed hc policy []
  | false =>
    rw [push_of_open hc, List.take_nil, List.append_nil, List.length_nil, Nat.zero_sub,
      Nat.add_zero]

/-- A second chunk is kept in part only if the first one was kept whole. -/
theorem keeps_append {q : ByteQueue} (h : q.closed = false) (policy : BufferPolicy) (x y : Bytes) :
    q.keeps policy (x ++ y).length =
        q.keeps policy x.length + (q.push policy x).keeps policy y.length ∧
      (q.keeps policy x.length = x.length ∨ (q.push policy x).keeps policy y.length = 0) := by
  rw [push_of_open h, List.length_append]
  cases policy with
  | dropNewest capacity =>
    simp only [keeps, List.length_append, List.length_take]
    omega
  | _ => exact ⟨rfl, .inl rfl⟩

theorem push_append (q : ByteQueue) (policy : BufferPolicy) (x y : Bytes) :
    (q.push policy x).push policy y = q.push policy (x ++ y) := by
  cases hc : q.closed with
  | true => rw [push_of_closed hc, push_of_closed hc, push_of_closed hc]
  | false =>
    have hx : (q.push policy x).closed = false := by
      rw [push_of_open hc]
      exact hc
    have hle := q.keeps_le policy x.length
    have hle' := (q.push policy x).keeps_le policy y.length
    obtain ⟨hsum, hfull⟩ := keeps_append hc policy x y
    have htake : (x ++ y).take (q.keeps policy (x ++ y).length) =
        x.take (q.keeps policy x.length) ++
          y.take ((q.push policy x).keeps policy y.length) := by
      rw [hsum]
      rcases hfull with hk | hk
      · rw [hk, List.take_length_add_append, List.take_length]
      · rw [hk, Nat.add_zero, List.take_append_of_le_length hle, List.take_zero, List.append_nil]
    have hdrop : (x ++ y).length - q.keeps policy (x ++ y).length =
        x.length - q.keeps policy x.length +
          (y.length - (q.push policy x).keeps policy y.length) := by
      rw [hsum, List.length_append]
      omega
    rw [push_of_open hx, push_of_open hc policy (x ++ y), htake, hdrop, ← List.append_assoc,
      ← Nat.add_assoc]
    rw [push_of_open hc]

end ByteQueue

namespace Reader

/-- What can be seen of a reader without a read. -/
structure View where
  content : Bytes
  length : Nat
  closed : Bool
  dropped : Nat
  readyForMore : Bool
  /-- Whether a producer who now begins to wait for room falls asleep. -/
  waits : Bool
deriving DecidableEq

def view (r : Reader) : View where
  content := r.content
  length := r.length
  closed := r.closed
  dropped := r.dropped
  readyForMore := r.readyForMore
  waits := decide (r.pollWritable none ≠ .ready ())

/-- What some pushes leave, and the totals of what their outcomes tell. -/
structure Fed where
  reader : Reader
  accepted : Nat
  lost : Nat

/-- Pushes some chunks. -/
def feed (r : Reader) : List Bytes → Fed
  | [] => ⟨r, 0, 0⟩
  | chunk :: chunks =>
    let fed := (r.push chunk).1.feed chunks
    { fed with
      accepted := (r.push chunk).2.accepted chunk.length + fed.accepted
      lost := (r.push chunk).2.lost + fed.lost }

/-- Some pushes, and then a loop of reads until there is nothing more. -/
structure Round where
  chunks : List Bytes
  bounds : Bounds

/-- The bytes of a round, however they are cut. -/
def Round.text (t : Round) : Bytes := t.chunks.flatten

/-- What everybody sees of a round. -/
structure Report where
  accepted : Nat
  lost : Nat
  /-- The view between the pushes and the reads. -/
  fed : View
  drained : Bytes
  outcome : ReadOutcome
  /-- The view after the reads. -/
  left : View
deriving DecidableEq

def reports (r : Reader) : List Round → List Report
  | [] => []
  | t :: ts =>
    let fed := r.feed t.chunks
    let drained := fed.reader.drainLoop t.bounds
    { accepted := fed.accepted
      lost := fed.lost
      fed := fed.reader.view
      drained := drained.chunks.flatten
      outcome := drained.outcome
      left := drained.reader.view } :: drained.reader.reports ts

/-- Sound readers of the same kind that hold the same bytes, perhaps in other chunks. -/
structure Alike (r r' : Reader) : Prop where
  wellFormed : r.WellFormed
  wellFormed' : r'.WellFormed
  policy : r'.policy = r.policy
  highWaterMark : r'.highWaterMark = r.highWaterMark
  queue : r'.queue = r.queue

theorem Alike.refl {r : Reader} (h : r.WellFormed) : r.Alike r := ⟨h, h, rfl, rfl, rfl⟩

theorem waits_eq (r : Reader) : decide (r.pollWritable none ≠ .ready ()) = !r.writable := by
  rw [pollWritable_new]
  cases r.writable <;> rfl

section Alike

variable {r r' : Reader} (h : r.Alike r')

include h

theorem Alike.content : r'.content = r.content := congrArg ByteQueue.bytes h.queue

theorem Alike.closed : r'.closed = r.closed := congrArg ByteQueue.closed h.queue

theorem Alike.dropped : r'.dropped = r.dropped := congrArg ByteQueue.dropped h.queue

theorem Alike.length : r'.length = r.length := by
  rw [h.wellFormed'.length_eq, h.wellFormed.length_eq, h.content]

theorem Alike.view : r'.view = r.view := by
  have hthreshold : r'.threshold = r.threshold := by
    rw [threshold, threshold, h.policy, h.highWaterMark]
  have hready : r'.readyForMore = r.readyForMore := by
    rw [readyForMore, readyForMore, h.closed, h.length, hthreshold]
  have hwritable : r'.writable = r.writable := by
    rw [writable, writable, h.closed, h.length, h.policy]
  rw [Reader.view, Reader.view, h.content, h.length, h.closed, h.dropped, hready, waits_eq,
    waits_eq, hwritable]

end Alike

/-- A push changes the counters by what its outcome tells. -/
theorem WellFormed.push_totals {r : Reader} (h : r.WellFormed) (bytes : Bytes) :
    (r.push bytes).1.length = r.length + (r.push bytes).2.accepted bytes.length ∧
      (r.push bytes).1.dropped = r.dropped + (r.push bytes).2.lost := by
  cases hc : r.closed with
  | true =>
    rw [push_of_closed r bytes hc]
    exact ⟨rfl, rfl⟩
  | false =>
    obtain ⟨haccepted, hlost⟩ := push_outcome hc bytes
    have hbooks := r.push_turnover bytes hc
    rw [haccepted, hlost]
    refine ⟨?_, hbooks.dropped⟩
    have hcontent : (r.push bytes).1.content = r.content ++ r.kept bytes := hbooks.content
    rw [(hbooks.wellFormed h).length_eq, hcontent, List.length_append, h.length_eq]

/-- Some pushes against one push of all their bytes. -/
structure Swallowed (r : Reader) (chunks : List Bytes) (fed : Fed) : Prop where
  wellFormed : fed.reader.WellFormed
  policy : fed.reader.policy = r.policy
  highWaterMark : fed.reader.highWaterMark = r.highWaterMark
  queue : fed.reader.queue = r.queue.push r.policy chunks.flatten
  accepted : fed.reader.length = r.length + fed.accepted
  lost : fed.reader.dropped = r.dropped + fed.lost

theorem WellFormed.swallowed {r : Reader} (h : r.WellFormed) (chunks : List Bytes) :
    r.Swallowed chunks (r.feed chunks) := by
  induction chunks generalizing r with
  | nil => exact ⟨h, rfl, rfl, (r.queue.push_nil r.policy).symm, rfl, rfl⟩
  | cons chunk chunks ih =>
    have hrest := ih (h.next (.push chunk))
    have hpolicy : (r.push chunk).1.policy = r.policy := r.next_policy (.push chunk)
    have hmark : (r.push chunk).1.highWaterMark = r.highWaterMark := r.next_mark (.push chunk)
    obtain ⟨hlength, hdropped⟩ := h.push_totals chunk
    refine ⟨hrest.wellFormed, hrest.policy.trans hpolicy, hrest.highWaterMark.trans hmark, ?_, ?_,
      ?_⟩
    · have hqueue : (r.push chunk).1.queue = r.queue.push r.policy chunk := h.push_queue chunk
      have hall := hrest.queue
      rw [Reader.next, act, hqueue, hpolicy, ByteQueue.push_append] at hall
      rw [List.flatten_cons]
      exact hall
    · rw [feed, ← Nat.add_assoc, ← hlength]
      exact hrest.accepted
    · rw [feed, ← Nat.add_assoc, ← hdropped]
      exact hrest.lost

/-- Readers that look alike still do so after the same bytes, and they have kept and lost as many. -/
theorem Alike.feed {r r' : Reader} {chunks chunks' : List Bytes} (h : r.Alike r')
    (same : chunks.flatten = chunks'.flatten) :
    (r.feed chunks).reader.Alike (r'.feed chunks').reader ∧
      (r'.feed chunks').accepted = (r.feed chunks).accepted ∧
      (r'.feed chunks').lost = (r.feed chunks).lost := by
  have hf := h.wellFormed.swallowed chunks
  have hf' := h.wellFormed'.swallowed chunks'
  have hqueue : (r'.feed chunks').reader.queue = (r.feed chunks).reader.queue := by
    rw [hf.queue, hf'.queue, h.queue, h.policy, same]
  have hlike : (r.feed chunks).reader.Alike (r'.feed chunks').reader := by
    refine ⟨hf.wellFormed, hf'.wellFormed, ?_, ?_, hqueue⟩
    · rw [hf.policy, hf'.policy, h.policy]
    · rw [hf.highWaterMark, hf'.highWaterMark, h.highWaterMark]
  have haccepted := hf.accepted
  have haccepted' := hf'.accepted
  have hlost := hf.lost
  have hlost' := hf'.lost
  rw [hlike.length] at haccepted'
  rw [hlike.dropped] at hlost'
  rw [h.length] at haccepted'
  rw [h.dropped] at hlost'
  exact ⟨hlike, by omega, by omega⟩

/-- The text that a loop of reads gets does not depend on what the reads ask for. -/
theorem Alike.drainLoop {r r' : Reader} (h : r.Alike r') (b b' : Bounds) :
    (r.drainLoop b).reader.Alike (r'.drainLoop b').reader ∧
      (r'.drainLoop b').chunks.flatten = (r.drainLoop b).chunks.flatten ∧
      (r'.drainLoop b').outcome = (r.drainLoop b).outcome := by
  have hd := h.wellFormed.emptied b
  have hd' := h.wellFormed'.emptied b'
  refine ⟨⟨hd.wellFormed, hd'.wellFormed, ?_, ?_, ?_⟩, ?_, ?_⟩
  · rw [hd.policy, hd'.policy, h.policy]
  · rw [hd.highWaterMark, hd'.highWaterMark, h.highWaterMark]
  · rw [hd.queue, hd'.queue, h.queue]
  · rw [hd.text, hd'.text, h.content]
  · rw [hd.outcome, hd'.outcome, h.closed]

theorem Alike.reports {r r' : Reader} {ts ts' : List Round} (h : r.Alike r')
    (same : ts'.map Round.text = ts.map Round.text) : r'.reports ts' = r.reports ts := by
  induction ts generalizing r r' ts' with
  | nil =>
    rw [List.map_eq_nil_iff.mp same]
    rfl
  | cons t ts ih =>
    obtain ⟨t', ts', rfl, htext, hrest⟩ := List.map_eq_cons_iff.mp same
    obtain ⟨hfed, haccepted, hlost⟩ := h.feed htext.symm
    obtain ⟨hleft, hdrained, houtcome⟩ := hfed.drainLoop t.bounds t'.bounds
    rw [Reader.reports, Reader.reports, ih hleft hrest, haccepted, hlost, hfed.view, hdrained,
      houtcome, hleft.view]

/-- Buffering does not depend on how output is cut into chunks. From any moment on, pushing two
chunks leaves what pushing both as one leaves; and wherever the same bytes are pushed between loops
of reads that take everything, all that anybody sees is the same, whatever the chunks and the sizes
of the reads. -/
theorem cut_unseen (policy : BufferPolicy) (mark : Nat) (ts : List Request)
    {rounds rounds' : List Round} (same : rounds.map Round.text = rounds'.map Round.text) :
    let r := ({ policy, highWaterMark := mark } : Reader).run ts
    (∀ x y, ((r.push x).1.push y).1.view = (r.push (x ++ y)).1.view) ∧
    r.reports rounds = r.reports rounds' := by
  intro r
  have hr : r.WellFormed := (wellFormed_new policy mark).run ts
  refine ⟨fun x y => ?_, (Alike.refl hr).reports same⟩
  have htext : [x ++ y].flatten = [x, y].flatten := by
    rw [List.flatten_singleton, List.flatten_cons, List.flatten_singleton]
  exact ((Alike.refl hr).feed htext).1.view

/-- Five bytes for the three places that are left, in three chunks or in one, and then as many as
there are places again. -/
theorem cut_unseen_overflow :
    let whole : Bounds := ⟨fun _ => none, fun _ => nofun⟩
    let single : Bounds := ⟨fun _ => some 1, fun _ => nofun⟩
    let rounds : List Round := [⟨[[1, 2], [], [3, 4, 5]], whole⟩, ⟨[[6, 7, 8, 9]], single⟩]
    let rounds' : List Round := [⟨[[1, 2, 3, 4, 5]], single⟩, ⟨[[6], [7, 8, 9], []], whole⟩]
    let r := ({ policy := .dropNewest 4, highWaterMark := 3 } : Reader).run [.push [0]]
    rounds.map Round.text = rounds'.map Round.text ∧ r.reports rounds = r.reports rounds' ∧
      (r.feed [[1, 2], [], [3, 4, 5]]).accepted = 3 ∧
      (r.feed [[1, 2], [], [3, 4, 5]]).lost = 2 := by
  intro whole single rounds rounds' r
  have same : rounds.map Round.text = rounds'.map Round.text := rfl
  exact ⟨same, (cut_unseen (.dropNewest 4) 3 [.push [0]] same).2, rfl, rfl⟩

end Reader

end Confine
