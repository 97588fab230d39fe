import Confine.Host.Machine
import Confine.Native.StdinQueue
import Confine.Native.Supervision
import Confine.Session.Basic

/-!
The native engine: it runs the child as a process of the host, with pipes at its standard
descriptors and limits on its resources. The child goes on only while somebody waits.
-/

namespace Confine

/-- What a host offers to a child: its files, and the directory and the environment that the child
inherits. -/
structure HostContext where
  files : Host.Files := .standard
  dir : Host.Location := ["tmp"]
  env : Host.Bindings := [("PATH", "/usr/local/sbin:/usr/local/bin:/usr/sbin:/usr/bin:/sbin:/bin")]

/-- A child with the tasks around it. -/
structure Child where
  machine : Host.Machine
  stdin : StdinQueue := .opened
  /-- How much of the next chunk for standard input is in the pipe. -/
  sent : Nat := 0
  tasks : Supervision := {}
  /-- When the wall time is over. -/
  deadline : Option Nat := none

namespace Child

/-- The task that writes the pipe puts in what fits of the next chunk, as long as somebody can
read it; the flag tells whether it is through with that chunk. -/
def writeChunk (c : Child) (chunk : Bytes) : Child × Bool :=
  let q := { c.stdin with queued := c.stdin.queued.drop 1 }
  let left := chunk.drop c.sent
  let part := left.take c.machine.inputRoom
  if left ≠ [] && !c.machine.inputHeld then
    ({ c with stdin := { q with pipe := .failed }, sent := 0 }, true)
  else
    let machine := c.machine.feed part
    if part.length = left.length then
      ({ c with machine, stdin := { q with written := q.written ++ [chunk] }, sent := 0 }, true)
    else ({ c with machine, sent := c.sent + part.length }, false)

/-- The task that writes the pipe goes on as far as there is room. -/
def writeStdin : List Bytes → Child → Child
  | [], c => c
  | chunk :: rest, c =>
    if c.stdin.pipe = .open then
      let (c, through) := c.writeChunk chunk
      if through then writeStdin rest c else c
    else c

/-- The task closes the pipe once nothing more is to come. -/
def closeStdin (c : Child) : Child :=
  if c.stdin.pipe = .open && c.stdin.queued.isEmpty && !c.stdin.accepting then
    { c with machine := c.machine.closeInput, stdin := { c.stdin with pipe := .closed } }
  else c

/-- The pipe of the host at an output stream. -/
def hostPipe : Stream → Nat
  | .stdout => Host.Machine.outputPipe
  | .stderr => Host.Machine.errorPipe

/-- As many reads as a full pipe is good for, the end of the stream included. -/
def readsOfPipe : Nat := Host.Machine.pipeCapacity / Pump.readSize + 2

/-- Hands what a pipe of the host holds to its pump, read by read as the pump asks for it, and the
end of the stream once nobody can write any more. -/
def relay (stream : Stream) : Nat → Child → Sandbox → Child × Sandbox
  | 0, c, s => (c, s)
  | n + 1, c, s =>
    let (tasks, s) := c.tasks.poll stream s
    let c := { c with tasks }
    if (tasks.pump stream).phase ≠ .reading then (c, s)
    else
      match c.machine.content (hostPipe stream) with
      | [] =>
        if c.machine.hasWriters (hostPipe stream) then (c, s)
        else relay stream n { c with tasks := tasks.feed stream .endOfStream } s
      | bytes =>
        relay stream n
          { c with
            machine := c.machine.setContent (hostPipe stream) (bytes.drop Pump.readSize)
            tasks := tasks.feed stream (.data (bytes.take Pump.readSize)) } s

/-- Runs the tasks as far as they can go. -/
def runTasks (c : Child) (s : Sandbox) : Child × Sandbox :=
  let (c, s) := relay .stdout readsOfPipe c s
  let (c, s) := relay .stderr readsOfPipe c s
  let (tasks, s) := c.tasks.report s
  ({ c with tasks }, s)

/-- The watch sees that the child has ended, and ends the rest of its group. -/
def reap (c : Child) : Child :=
  match c.machine.status? with
  | none => c
  | some raw =>
    { c with machine := c.machine.killGroup, tasks := (c.tasks.childEnds (some raw)).reap }

/-- Ends the group when its wall time is over. -/
def expire (c : Child) : Child :=
  if c.deadline.any fun t => decide (t ≤ c.machine.clock) then
    { c with machine := c.machine.killGroup }
  else c

/-- Lets the child and the tasks go on; none if nothing is going to happen any more. -/
def advance (c : Child) (s : Sandbox) : Option (Child × Sandbox) :=
  if c.tasks.reported then none
  else
    let c := (writeStdin c.stdin.queued c).closeStdin
    let machine := if c.machine.status?.isSome then some c.machine else c.machine.tick c.deadline
    machine.map fun machine =>
      { c with machine }.expire.reap.runTasks s

/-- Ends the group of the child. -/
def kill (c : Child) : Child := { c with machine := c.machine.killGroup }

end Child

structure NativeEngine where
  limits : Limits
  context : HostContext := {}
  /-- Whether there is a runtime to carry the tasks. -/
  hasRuntime : Bool := true
  /-- Whether it was given to a sandbox that tried to spawn; it serves for one child only. -/
  used : Bool := false
  child : Option Child := none

namespace NativeEngine

/-- Why a spawn fails whose texts contain a zero byte. -/
def nulReason : String := "nul byte found in provided data"

/-- Whether any of the texts that go to the host contains a zero byte. -/
def anyNul (program : String) (options : SpawnOptions) (dir : Option String) : Bool :=
  let texts := program :: options.args ++ dir.toList ++
    (options.env.getD []).flatMap fun (n, v) => [n, v]
  texts.any fun t => t.toList.contains '\x00'

/-- Starts the process of a child, or gives the reason why that is impossible. -/
def start (e : NativeEngine) (mapping : PathMapping) (request : SpawnRequest) :
    Except String Child := do
  let options := request.options
  let program := mapping.map options.program
  let workDir := options.workDir.map mapping.map
  if anyNul program options workDir then throw nulReason
  let host := e.context
  let text := Host.Octets.ofText
  let env := match options.env with
    | some env => env.map fun (n, v) => (text n, text v)
    | none => host.env
  let found := do
    let dir ← match workDir with
      | some dir => host.files.directory host.dir (text dir)
      | none => pure host.dir
    let places := Host.candidates (env.lookup "PATH") (text program)
    return (dir, ← Host.Machine.findProgram host.files dir places)
  match found with
  | .error error => throw error.message
  | .ok (dir, image) =>
    let plan := RlimitPlan.ofLimits e.limits request.debugOnCrash
    let args := (program :: options.args).map text
    return {
      machine := .boot host.files dir (Host.Rlimits.inherited.apply plan) image args env
      deadline := e.limits.wallTimeMs.map (· * Host.ticksPerMilli) }

/-- Starts the one child of the engine. -/
def spawn (e : NativeEngine) (mapping : PathMapping) (request : SpawnRequest) :
    NativeEngine × Except EngineError Unit :=
  if !e.hasRuntime then (e, .error .noRuntime)
  else if e.used then (e, .error (.spawn "engine already spawned a child"))
  else
    match e.start mapping request with
    | .ok child => ({ e with used := true, child := some child }, .ok ())
    | .error reason =>
      ({ e with used := true }, .error (.spawn (request.options.program ++ ": " ++ reason)))

def kill (e : NativeEngine) : NativeEngine := { e with child := e.child.map (·.kill) }

/-- Accepts bytes for the child's standard input. -/
def write (e : NativeEngine) (bytes : Bytes) : NativeEngine × Except EngineError Unit :=
  match e.child with
  | none => (e, .error .notRunning)
  | some child =>
    let (stdin, result) := child.stdin.write bytes
    ({ e with child := some { child with stdin } }, result)

def close (e : NativeEngine) : NativeEngine :=
  { e with child := e.child.map fun c => { c with stdin := c.stdin.close } }

/-- Lets the child of a session go on; none if nothing is going to happen any more. -/
def advance (s : Session NativeEngine) : Option (Session NativeEngine) :=
  s.engine.child.bind fun child =>
    (child.advance s.sandbox).map fun (child, sandbox) =>
      { s with sandbox, engine := { s.engine with child := some child } }

/-- How many times the child may go on while a wait lasts. -/
def patience : Nat := 10000000

/-- Tries a wait, and again after each step of the child. -/
def settleWithin (attempt : Session NativeEngine → Session NativeEngine × Answer) :
    Nat → Session NativeEngine → Session NativeEngine × Answer
  | 0, s => attempt s
  | n + 1, s =>
    match attempt s with
    | (s, .pending) =>
      match advance s with
      | some s => settleWithin attempt n s
      | none => (s, .pending)
    | finished => finished

/-- The link through which a session reaches a native engine. -/
def link : EngineLink NativeEngine Empty where
  spawn s request :=
    let (engine, result) := s.engine.spawn s.sandbox.mapping request
    ({ s with engine }, result, [])
  kill s := ({ s with engine := s.engine.kill }, [])
  write s bytes :=
    let (engine, result) := s.engine.write bytes
    ({ s with engine }, result.isOk, [])
  close s := ({ s with engine := s.engine.close }, [])
  settle attempt s := settleWithin attempt patience s

end NativeEngine

end Confine
