import Confine.Pump
import Confine.WaitStatus

/-!
The tasks of the native engine around one child: a pump for each output pipe and the watch for the
child's end. The watch first frees the pumps from waiting for room, then waits for both to come to
their end, and only then reports how the child ended.
-/

namespace Confine

structure Supervision where
  stdout : Pump := { fd := Stream.stdout.fd }
  stderr : Pump := { fd := Stream.stderr.fd }
  /-- What waiting for the child gave, once it has ended: its wait status, or nothing if the wait
  failed. -/
  ended : Option (Option Int) := none
  /-- Whether the watch has seen the end. -/
  reaped : Bool := false
  /-- Whether the watch has reported the end. -/
  reported : Bool := false

namespace Supervision

def pump (v : Supervision) : Stream → Pump
  | .stdout => v.stdout
  | .stderr => v.stderr

def setPump (v : Supervision) (stream : Stream) (p : Pump) : Supervision :=
  match stream with
  | .stdout => { v with stdout := p }
  | .stderr => { v with stderr := p }

/-- Something comes into one of the pipes. -/
def feed (v : Supervision) (stream : Stream) (item : PipeItem) : Supervision :=
  v.setPump stream ((v.pump stream).feed item)

/-- The child ends; a second end cannot come. -/
def childEnds (v : Supervision) (raw : Option Int) : Supervision :=
  { v with ended := v.ended.or (some raw) }

/-- Whether both pumps have come to their end. -/
def drained (v : Supervision) : Bool :=
  v.stdout.phase = .finished && v.stderr.phase = .finished

/-- Polls one of the pumps. -/
def poll (v : Supervision) (stream : Stream) (s : Sandbox) : Supervision × Sandbox :=
  if (v.pump stream).phase = .finished then (v, s)
  else
    let (p, s) := (v.pump stream).poll v.reaped s
    (v.setPump stream p, s)

/-- The watch sees that the child has ended. -/
def reap (v : Supervision) : Supervision := { v with reaped := v.reaped || v.ended.isSome }

/-- The watch reports the end, if it has seen it and both pumps have come to their end. -/
def report (v : Supervision) (s : Sandbox) : Supervision × Sandbox :=
  match v.ended with
  | some raw =>
    if v.reaped && v.drained && !v.reported then
      ({ v with reported := true }, (s.deliver (WaitStatus.event raw)).1)
    else (v, s)
  | none => (v, s)

end Supervision

end Confine
