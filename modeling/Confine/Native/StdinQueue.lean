import Confine.Engine
import Confine.Error

/-!
The queue between the writers to a child's stdin and the task that writes the pipe. The task takes
one chunk at a time and writes all of it, and stops at the first error of the pipe; closing the
queue discards nothing that was accepted.
-/

namespace Confine

/-- The end of the pipe at which the task writes. -/
inductive PipeEnd where
  | open
  /-- Closed after everything was written. -/
  | closed
  /-- The pipe failed, and the task stopped. -/
  | failed
deriving DecidableEq

structure StdinQueue where
  /-- Whether chunks are accepted; so only between the spawn and the closing. -/
  accepting : Bool := false
  /-- Chunks accepted and not yet taken by the task, the oldest first. -/
  queued : List Bytes := []
  /-- Chunks written in full, the oldest first. -/
  written : List Bytes := []
  pipe : PipeEnd := .open
deriving DecidableEq

namespace StdinQueue

/-- The queue of a child that has just been started. -/
def opened : StdinQueue := { accepting := true }

/-- Accepts a chunk, unless the queue is closed or the task has stopped. -/
def write (q : StdinQueue) (bytes : Bytes) : StdinQueue × Except EngineError Unit :=
  if q.accepting && q.pipe = .open then ({ q with queued := q.queued ++ [bytes] }, .ok ())
  else (q, .error .notRunning)

/-- Accepts no more chunks; the engine's release does the same. -/
def close (q : StdinQueue) : StdinQueue := { q with accepting := false }

end StdinQueue

end Confine
