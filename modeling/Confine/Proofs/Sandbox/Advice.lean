import Confine.Proofs.Reader.Waking
import Confine.Proofs.Sandbox.Postponement

/-!
The advice that an engine gets for each chunk. A push works it out on its own in each of its
outcomes, a reader does so again when it is asked, and a wait for room looks at yet another bound;
they do not contradict each other.
-/

namespace Confine

/-- Whether the producer of a pushed chunk is told to go on. -/
def PushOutcome.ready : PushOutcome → Bool
  | buffered readyForMore => readyForMore
  | _ => false

namespace Reader

theorem readyForMore_of_closed {r : Reader} (h : r.closed = true) : r.readyForMore = false := by
  rw [readyForMore, h]
  rfl

/-- No reader wants more once it has reached its capacity, whatever its high-water mark. -/
theorem readyForMore_of_full {r : Reader} {capacity : Nat}
    (hp : r.policy.capacity? = some capacity) (full : capacity ≤ r.length) :
    r.readyForMore = false := by
  have hthreshold : r.threshold ≤ r.length := by
    rw [threshold, hp]
    exact Nat.le_trans (Nat.min_le_left _ _) full
  rw [readyForMore, decide_eq_false (Nat.not_lt.mpr hthreshold), Bool.and_false]

/-- What does not fit fills a reader up. -/
theorem truncate_full {r : Reader} {capacity : Nat} {bytes : Bytes}
    (hover : capacity < r.length + bytes.length) :
    capacity ≤ (r.truncate capacity bytes).length := by
  have hlength : (r.truncate capacity bytes).length =
      r.length + (bytes.take (r.room capacity)).length := r.append_length _
  rw [hlength, List.length_take, room]
  omega

/-- A push advises what the reader says afterwards. -/
theorem push_ready (r : Reader) (bytes : Bytes) :
    (r.push bytes).2.ready = (r.push bytes).1.readyForMore := by
  cases hc : r.closed with
  | true =>
    rw [push_of_closed r bytes hc]
    exact (readyForMore_of_closed hc).symm
  | false =>
    rcases push_cases bytes hc with ⟨-, hpush⟩ | ⟨capacity, hp, hover, -, hpush⟩
    · rw [hpush]
      rfl
    · have hpolicy : (r.signalled.truncate capacity bytes).policy.capacity? = some capacity := by
        have hsame := (r.signalled.append_other (bytes.take (r.signalled.room capacity))).2.1
        rw [truncate, hsame, signalled, hp]
        rfl
      have hfull : capacity ≤ (r.signalled.truncate capacity bytes).length := truncate_full hover
      rw [hpush]
      exact (readyForMore_of_full hpolicy hfull).symm

/-- A reader that wants more has room. -/
theorem writable_of_ready {r : Reader} (h : r.readyForMore = true) : r.writable = true := by
  cases hw : r.writable with
  | true => rfl
  | false =>
    obtain ⟨capacity, hp, -, hlength⟩ := full_of_not_writable hw
    have hcapacity : r.policy.capacity? = some capacity := by
      rw [hp]
      rfl
    have hfull : capacity ≤ r.length := Nat.le_trans (Nat.le_max_left _ _) hlength
    exact (readyForMore_of_full hcapacity hfull).symm.trans h

theorem pollWritable_of_ready {r : Reader} (h : r.readyForMore = true) :
    r.pollWritable none = .ready () := by
  rw [pollWritable_new, if_pos (writable_of_ready h)]

/-- Between the high-water mark and the capacity there is room for a reader that wants no more. -/
example :
    let r := (({ policy := .suspend 8, highWaterMark := 4 } : Reader).push [1, 2, 3, 4, 5]).1
    r.readyForMore = false ∧ r.pollWritable none = .ready () := by decide

end Reader

namespace Sandbox

theorem route_ready (s : Sandbox) (stream : Stream) (bytes : Bytes) :
    (s.route stream bytes).2 = ((s.reader stream).push bytes).2.ready := by
  rw [route]
  cases ((s.reader stream).push bytes).2 <;> rfl

theorem deliver_data {s : Sandbox} (present : s.present = true) (state : s.state ≠ .spawning)
    (stream : Stream) (bytes : Bytes) : s.deliver (.data stream.fd bytes) =
      ((s.route stream bytes).1, .ok (s.route stream bytes).2) := by
  rw [deliver_of_not_spawning present state, apply, streamOf_fd]

/-- The answer to a chunk is what its reader says right after it. -/
theorem deliver_ready {s : Sandbox} (present : s.present = true) (state : s.state ≠ .spawning)
    (stream : Stream) (bytes : Bytes) : (s.deliver (.data stream.fd bytes)).2 =
      .ok ((s.deliver (.data stream.fd bytes)).1.reader stream).readyForMore := by
  rw [deliver_data present state, route_ready, route_reader, Reader.push_ready]

/-- A producer who waits for room in a reader that wants more is let go at its first poll. -/
theorem poll_of_ready {s : Sandbox} {stream : Stream} (h : (s.reader stream).readyForMore = true) :
    s.poll (.readerWritable stream none) = (s, .inl (.writable (.ok ()))) ∧
      s.poll (.sinkWritable stream.fd) = (s, .inl (.writable (.ok ()))) := by
  have hpoll := Reader.pollWritable_of_ready h
  constructor
  · rw [poll, hpoll]
  · rw [poll]
    split
    · rfl
    · simp only [streamOf_fd, poll.sink, hpoll]

end Sandbox

/-- The advice to the engine is the reader's own word. While the sandbox exists and no spawn is in
progress, the answer to every chunk of either stream is what the reader of that stream says right
after it, whether the chunk was buffered, truncated or turned away. And whenever a reader wants
more, a wait for room in it is over at once. -/
theorem Stage.advice_faithful (c : Config) (ms : List Move) (stream : Stream) :
    let w := (ofConfig c).run ms
    let r := w.sandbox.reader stream
    (w.sandbox.present = true → w.sandbox.state ≠ .spawning → ∀ bytes,
      let e := EngineEvent.data stream.fd bytes
      let ready := ((w.sandbox.deliver e).1.reader stream).readyForMore
      (w.sandbox.deliver e).2 = .ok ready ∧
        (w.hasSink = true → (w.next (.report e)).sandbox = (w.sandbox.deliver e).1 ∧
          w.answer (.report e) = .result (.ok (.flag ready)))) ∧
    (r.readyForMore = true →
      r.pollWritable none = .ready () ∧
      w.sandbox.poll (.readerWritable stream none) = (w.sandbox, .inl (.writable (.ok ()))) ∧
      w.sandbox.poll (.sinkWritable stream.fd) = (w.sandbox, .inl (.writable (.ok ())))) := by
  intro w r
  refine ⟨fun present state bytes => ?advice, fun ready => ?room⟩
  case advice =>
    intro e ready
    have hready : (w.sandbox.deliver e).2 = .ok ready :=
      Sandbox.deliver_ready present state stream bytes
    refine ⟨hready, fun sink => ⟨?_, ?_⟩⟩
    · rw [next_report sink]
    · rw [answer_report sink, hready]
      rfl
  case room => exact ⟨Reader.pollWritable_of_ready ready, Sandbox.poll_of_ready ready⟩

/-- Below the mark, cut off at the capacity, and after the end. -/
example :
    let w := (Stage.ofConfig { outputBuffer := .dropNewest 3, highWaterMark := 2 }).run
      [.spawn { program := "cat" }, .spawnReturns (.ok ())]
    let w' := w.run [.report (.data 1 [1, 2, 3, 4]), .report (.exit 0)]
    w.answer (.report (.data 1 [1])) = .result (.ok (.flag true)) ∧
      w.answer (.report (.data 1 [1, 2, 3, 4])) = .result (.ok (.flag false)) ∧
      w'.answer (.report (.data 1 [5])) = .result (.ok (.flag false)) := ⟨rfl, rfl, rfl⟩

end Confine
