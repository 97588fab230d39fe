import Confine.Sandbox.Basic

/-!
The diagnostic forms of policies, readers and sandboxes.
-/

namespace Confine

def BufferPolicy.diagnostic : BufferPolicy → String
  | unbounded => "Unbounded"
  | dropNewest n => Text.record "DropNewest" [("capacity", toString n)]
  | suspend n => Text.record "Suspend" [("capacity", toString n)]

/-- A reader with the descriptor that it is bound to. -/
def Reader.diagnostic (r : Reader) (fd : Int) : String :=
  Text.record "OutputReader"
    [("fd", toString fd), ("policy", r.policy.diagnostic), ("buffered", toString r.length),
      ("closed", toString r.closed)]

def Sandbox.diagnostic (s : Sandbox) : String :=
  Text.record "Sandbox"
    [("state", s.state.diagnostic), ("stdout", s.stdout.diagnostic Stream.stdout.fd),
      ("stderr", s.stderr.diagnostic Stream.stderr.fd)]

end Confine
