import Confine.Bytes
import Confine.Policy

/-!
The readable end of one output descriptor: a queue of chunks with a length counter, a closed flag
and the number of dropped bytes. Waiting readers and producers are woken by two signals, whose
counts tell a waiter whether it has been signalled since it went to sleep.
-/

namespace Confine

/-- The result of a read that does not wait. -/
inductive ReadOutcome where
  | data (chunk : Bytes)
  /-- Nothing buffered now. -/
  | empty
  /-- Closed and drained. -/
  | closed
deriving DecidableEq

/-- What became of a pushed chunk. -/
inductive PushOutcome where
  | buffered (readyForMore : Bool)
  | truncated (accepted dropped : Nat)
  | closed
deriving DecidableEq

structure Reader where
  policy : BufferPolicy
  highWaterMark : Nat
  /-- The buffered chunks, the oldest first. -/
  chunks : List Bytes := []
  /-- The number of buffered bytes. -/
  length : Nat := 0
  closed : Bool := false
  dropped : Nat := 0
  /-- Signals to waiting readers: one for each chunk and one for the closing. -/
  arrivals : Nat := 0
  /-- Signals to waiting producers: one for each chunk taken and one for the closing. -/
  drains : Nat := 0

namespace Reader

/-- The buffered bytes. -/
def content (r : Reader) : Bytes := r.chunks.flatten

/-- The buffered length from which the reader wants no more. -/
def threshold (r : Reader) : Nat :=
  match r.policy.capacity? with
  | some n => min n r.highWaterMark
  | none => r.highWaterMark

def readyForMore (r : Reader) : Bool := !r.closed && decide (r.length < r.threshold)

/-- Appends a non-empty chunk. -/
def append (r : Reader) (bytes : Bytes) : Reader :=
  if bytes = [] then r
  else { r with chunks := r.chunks ++ [bytes], length := r.length + bytes.length }

/-- The room left under a capacity. -/
def room (r : Reader) (capacity : Nat) : Nat := capacity - r.length

/-- Keeps of a chunk what fits under a capacity and counts the rest. -/
def truncate (r : Reader) (capacity : Nat) (bytes : Bytes) : Reader :=
  { r.append (bytes.take (r.room capacity)) with
    dropped := r.dropped + (bytes.length - r.room capacity) }

/-- Takes in a chunk from the producer; a closed reader ignores it. -/
def push (r : Reader) (bytes : Bytes) : Reader × PushOutcome :=
  if r.closed then (r, .closed)
  else
    let signalled := { r with arrivals := r.arrivals + 1 }
    let whole := signalled.append bytes
    let kept := (whole, PushOutcome.buffered (decide (whole.length < whole.threshold)))
    match r.policy with
    | .dropNewest capacity =>
      if r.length + bytes.length > capacity then
        (signalled.truncate capacity bytes,
          .truncated (r.room capacity) (bytes.length - r.room capacity))
      else kept
    | _ => kept

/-- Marks the end of the stream; true for the call that closed it. -/
def close (r : Reader) : Reader × Bool :=
  if r.closed then (r, false)
  else ({ r with closed := true, arrivals := r.arrivals + 1, drains := r.drains + 1 }, true)

/-- What a read finds when no chunk is buffered or wanted. -/
def vacant (r : Reader) : ReadOutcome :=
  if r.chunks = [] ∧ r.closed then .closed else .empty

/-- Takes at most `max` bytes of the oldest chunk; without a bound, the whole chunk. -/
def readMax (r : Reader) (max : Option Nat) : Reader × ReadOutcome :=
  if max = some 0 then (r, r.vacant)
  else
    match r.chunks with
    | [] => (r, r.vacant)
    | chunk :: rest =>
      let taken := match max with
        | some m => chunk.take m
        | none => chunk
      let left := chunk.drop taken.length
      ({ r with
          chunks := if left = [] then rest else left :: rest
          length := r.length - taken.length
          drains := r.drains + 1 }, .data taken)

/-- Takes the oldest chunk. -/
def read (r : Reader) : Reader × ReadOutcome := r.readMax none

/-- Takes every buffered chunk, and shows what the next read would find. -/
def drain (r : Reader) : Reader × List Bytes × ReadOutcome :=
  let drained := { r with
    chunks := [], length := r.length - r.content.length, drains := r.drains + r.chunks.length }
  (drained, r.chunks, drained.vacant)

/-- Whether a producer may push: only a full `suspend` buffer that is still open holds it back. -/
def writable (r : Reader) : Bool :=
  match r.policy with
  | .suspend capacity => r.closed || decide (r.length < max capacity 1)
  | _ => true

end Reader

end Confine
