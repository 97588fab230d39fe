import Confine.Host.Shell.Step
import Confine.Host.Tool.Start

/-!
The image of a process: the program that it runs, in its current state.
-/

namespace Confine.Host

inductive Image where
  | shell (sh : Shell)
  | tool (t : Tool)

namespace Image

/-- What the program asks for. -/
def request : Image → Call Image
  | shell sh => sh.request.mapFork shell
  | tool t => t.request.mapFork nofun

/-- Goes on from the reply. -/
def resume : Image → Reply → Image
  | shell sh, reply => shell (sh.resume reply)
  | tool t, reply => tool (t.resume reply)

/-- Runs the handler of a caught signal. -/
def signalled : Image → Nat → Image
  | shell sh, number => shell (sh.signalled number)
  | tool t, _ => tool t

/-- A program at its start. -/
def start (p : Program) (pid : Nat) (args : List String) (env : Bindings) : Image :=
  match p with
  | .shell => shell (Shell.start pid args env)
  | _ => tool (Tool.start p args env)

end Image

end Confine.Host
