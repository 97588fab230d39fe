import Confine.CommandLine.EnvFile
import Confine.Config.Load
import Confine.Config.Settings
import Confine.Native.Engine

/-!
The command line: it runs one program in a sandbox, hands its own standard input to the child and
the child's output to its own, and exits as the child did.
-/

namespace Confine.CommandLine

/-- What the command is started with. The variables are in the order in which they were set. -/
structure Invocation where
  args : List String
  vars : Variables := []
  /-- The files in the working directory. -/
  files : List (String × Bytes) := []
  stdin : Bytes := []
  /-- An interrupt comes as soon as the output so far ends with these bytes. -/
  interruptAfter : Option Bytes := none

/-- How the command ended. -/
structure Outcome where
  code : Nat
  stdout : Bytes := []
  stderr : Bytes := []
  /-- The errors that were logged. -/
  errors : List String := []
deriving DecidableEq

/-- Why the command fails before it has a child. -/
inductive Failure where
  | usage
  /-- The configuration cannot be loaded, with the cause of that if there is one to be told. -/
  | config (error : ConfigError) (cause : Option String)
deriving DecidableEq

namespace Failure

def message : Failure → String
  | usage => "usage: sandboxctl <program> [args...]"
  | config error _ => error.message

def cause? : Failure → Option String
  | usage => none
  | config _ cause => cause

/-- The report about a failure: its message and, in a paragraph of its own, the cause. -/
def render (f : Failure) : String :=
  "Error: " ++ f.message ++
    match f.cause? with
    | some c => "\n\nCaused by:\n    " ++ c ++ "\n"
    | none => "\n"

end Failure

/-- The working directory on the host. -/
def directory : Host.Location := ["tmp", "sandboxctl"]

/-- The host with the files of the working directory. -/
def hostContext (vars : Variables) (files : List (String × Bytes)) : HostContext :=
  let text := Host.Octets.ofText
  let tree := Host.Files.standard.put directory .directory
  { files := files.foldl (fun fs (name, content) =>
      fs.put (directory ++ [text name]) (.file content)) tree
    dir := directory
    env := vars.map fun (n, v) => (text n, text v) }

/-- Reads a whole file of the host. -/
def readFile (host : HostContext) (path : String) : Except Host.OsError Bytes :=
  match host.files.node host.dir (Host.Octets.ofText path) with
  | .error e => .error e
  | .ok (_, .file content) => .ok content
  | .ok (_, .directory) => .error .isDirectory
  | .ok (_, .limits) => .ok (Host.Octets.toBytes Host.Rlimits.inherited.render)
  | .ok _ => .ok []

/-- Why bytes are not the text of a file. -/
def notText : String := "stream did not contain valid UTF-8"

/-- The configuration of a run: from the file that a variable names, or else from the variables. -/
def config (host : HostContext) (vars : Variables) : Except Failure Config :=
  match vars.lookup "SANDBOX_CONFIG" with
  | none => .ok (.ofSettings fun name => vars.lookup name)
  | some path =>
    match readFile host path with
    | .error e => .error (.config (.unreadable path) (some e.message))
    | .ok content =>
      match Config.load path (some content) with
      | .ok c => .ok c
      | .error (.unreadable path) => .error (.config (.unreadable path) (some notText))
      | .error .malformed => .error (.config .malformed none)

/-- The names of the waits of a run. -/
def endWait : String := "end"

def stdoutWait : String := "stdout"

def stderrWait : String := "stderr"

/-- The output that has been taken for a wait. -/
def taken (s : Session NativeEngine) (wait : String) : Bytes :=
  match s.tasks.find? wait with
  | some (.readToEnd _ bytes _) => bytes
  | _ => []

/-- Hands standard input to the child in pieces and closes it. -/
def forward (s : Session NativeEngine) (input : List Bytes) : Session NativeEngine :=
  let s := input.foldl (fun s piece => (s.write NativeEngine.link piece).1) s
  (s.endStdin NativeEngine.link).1

/-- Cuts bytes into pieces of at most the given size. -/
def pieces (size : Nat) : Nat → Bytes → List Bytes
  | 0, _ => []
  | _, [] => []
  | n + 1, b => b.take size :: pieces size n (b.drop size)

/-- Kills the child if an interrupt is due. -/
def interrupt (after : Option Bytes) (s : Session NativeEngine) : Session NativeEngine :=
  if after.any fun mark => mark.isSuffixOf (taken s stdoutWait) then (s.kill NativeEngine.link).1
  else s

/-- Whether output has to be taken before the end: something waits for it, or buffers are bounded.
-/
def isEager (after : Option Bytes) (s : Session NativeEngine) : Bool :=
  after.isSome || s.sandbox.stdout.policy ≠ .unbounded

/-- Tries the wait for the end; until then it takes what output there is. -/
def attempt (after : Option Bytes) (s : Session NativeEngine) : Session NativeEngine × Answer :=
  match s.poll endWait with
  | (s, .pending) =>
    if isEager after s then
      let s := (s.poll stdoutWait).1
      let s := (s.poll stderrWait).1
      (interrupt after s, .pending)
    else (s, .pending)
  | finished => finished

/-- What a wait for all output has in the end. -/
def output (s : Session NativeEngine) (wait : String) : Bytes :=
  match s.poll wait with
  | (_, .ready (.all bytes)) => bytes
  | (s, _) => taken s wait

/-- Waits for the end of the child; one that does not end is killed when patience is over. -/
def awaitEnd (after : Option Bytes) (s : Session NativeEngine) :
    Session NativeEngine × Option Termination :=
  let finish (s : Session NativeEngine) := NativeEngine.link.settle (attempt after) s
  match finish s with
  | (s, .ready (.termination t)) => (s, some t)
  | (s, _) =>
    match finish (s.kill NativeEngine.link).1 with
    | (s, .ready (.termination t)) => (s, some t)
    | (s, _) => (s, none)

/-- The status with which a command exits. -/
def exitStatus (t : Termination) : Nat := (t.exitCode % 256).toNat

/-- The size of the pieces of standard input. -/
def pieceSize : Nat := 8192

/-- Runs a program in a sandbox. -/
def runProgram (i : Invocation) (host : HostContext) (vars : Variables) (c : Config)
    (sandbox : Sandbox) (program : String) (args : List String) : Outcome :=
  let engine : NativeEngine := { limits := c.limits, context := host }
  let mapping := match vars.lookup "SANDBOX_ROOT" with
    | some root => sandbox.mapping.replace (rooted root)
    | none => sandbox.mapping
  let s : Session NativeEngine := { sandbox := { sandbox with mapping }, engine }
  match s.spawn NativeEngine.link { program, args } with
  | (_, .result (.error e), _) =>
    { code := exitStatus .spawnFailed, errors := [e.message] }
  | (s, _, _) =>
    let s := (s.create endWait .termination).1
    let s := (s.create stdoutWait (.readToEnd .stdout)).1
    let s := (s.create stderrWait (.readToEnd .stderr)).1
    let s := forward s (pieces pieceSize (i.stdin.length + 1) i.stdin)
    let (s, termination) := awaitEnd i.interruptAfter s
    { code := (termination.map exitStatus).getD (exitStatus (.signaled Host.Signal.kill))
      stdout := output s stdoutWait
      stderr := output s stderrWait }

/-- The status of a command that breaks off because it cannot make a sandbox. -/
def abortStatus : Nat := 101

/-- The name of the file of variables that is read at the start. -/
def envFileName : String := ".env"

/-- Runs the command. -/
def run (i : Invocation) : Outcome :=
  let vars := match i.files.lookup envFileName with
    | some content => EnvFile.apply i.vars content
    | none => i.vars
  match i.args with
  | [] => { code := 1, stderr := Bytes.ofText Failure.usage.render }
  | program :: args =>
    let host := hostContext vars i.files
    match config host vars with
    | .error failure => { code := 1, stderr := Bytes.ofText failure.render }
    | .ok c =>
      match Sandbox.ofConfig? c with
      | none => { code := abortStatus }
      | some sandbox => runProgram i host vars c sandbox program args

end Confine.CommandLine
