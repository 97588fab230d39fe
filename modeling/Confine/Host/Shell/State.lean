import Confine.Host.Shell.Expansion
import Confine.Host.Shell.Script

/-!
The state of a shell: its parameters, functions and traps, and a stack of frames that says what is
still to be done. A frame either asks the host for a system call or is a step of the shell's own.
-/

namespace Confine.Host.Shell

/-- A command or redirection whose words may still have command substitutions in them. -/
inductive Task where
  | simple (c : SimpleCommand)
  | forEach (name : String) (words : List Word) (body : Command) (line : Nat)
  | choose (subject : Word) (cases : List (List Word × Command)) (line : Nat)
  /-- With `saved` the descriptor is kept, to be given back later. -/
  | redirect (r : Redirect) (saved : Bool)

namespace Task

/-- The words whose command substitutions come first. -/
def words : Task → List Word
  | simple c => c.words ++ c.assignments.map (·.2)
  | forEach _ ws _ _ => ws
  | choose subject cases _ => subject :: cases.flatMap (·.1)
  | redirect r _ => [r.target]

/-- Deals words out to places. -/
def deal : List (List Word × Command) → List Word → List (List Word × Command)
  | [], _ => []
  | (ps, c) :: rest, ws => (ws.take ps.length, c) :: deal rest (ws.drop ps.length)

/-- The task with other words. -/
def withWords (ws : List Word) : Task → Task
  | simple c =>
    simple { c with
      words := ws.take c.words.length
      assignments := (c.assignments.map (·.1)).zip (ws.drop c.words.length) }
  | forEach name _ body line => forEach name ws body line
  | choose subject cases line =>
    choose (ws.head?.getD subject) (deal cases (ws.drop 1)) line
  | redirect r saved => redirect { r with target := ws.head?.getD r.target } saved

/-- The first command substitution of a task. -/
def command? (s : Store) (t : Task) : Option (List Char) :=
  t.words.findSome? (Expansion.firstCommand? s)

/-- Fills in the first command substitution among words. -/
def fillWords (s : Store) (output : List Char) : List Word → List Word
  | [] => []
  | w :: ws =>
    match Expansion.fill? s output w with
    | some w => w :: ws
    | none => w :: fillWords s output ws

/-- Fills in the first command substitution of a task. -/
def fill (s : Store) (output : List Char) (t : Task) : Task :=
  t.withWords (fillWords s output t.words)

end Task

/-- What is done with the reply to a call. -/
inductive After where
  | ignore
  /-- A failed write is reported in the name of a command. -/
  | written (who : String)
  /-- A file was opened for a redirection. -/
  | opened (path : String) (creating : Bool)
  /-- A descriptor was duplicated for a redirection. -/
  | duplicated (source : String)
  /-- A descriptor was copied before it is redirected. -/
  | kept (fd copy : Nat)
  /-- A child to wait for was started. -/
  | foreground
  | background
  /-- A stage of a pipeline was started. -/
  | stage
  /-- A command substitution was started. -/
  | substitution
  /-- The shell could not become a program. -/
  | notBecome (who : Option String) (name : String)
  /-- The working directory was changed; it may be shown. -/
  | moved (target : String) (shown : Bool)
  /-- The working directory is known. -/
  | located (show_ old : Bool)
  | signalled (who : String)
  /-- A bound is shown in units. -/
  | boundShown (hard : Bool) (unit : Nat)
  /-- A bound is known and is to be set. -/
  | boundKnown (r : Resource) (soft hard : Bool) (value : Option Nat)
  | boundSet
  /-- A script file was opened in the name of a command. -/
  | scriptOpened (who : Option String) (path : String)

inductive Frame where
  /-- A script; at its end more may be read from standard input. -/
  | script (rest : List Char) (lines : Nat) (fromInput : Bool)
  | run (c : Command)
  | task (t : Task)
  /-- Fields that may be patterns of path names, and the arguments made of those before them. -/
  | arguments (c : SimpleCommand) (fields : List (List Marked)) (args : List String)
  /-- Variables for the command behind. -/
  | bind (values : List (String × String)) (exported : Bool)
  /-- Gives variables back what they had. -/
  | unbind (old : List (String × Option Variable))
  | builtin (args : List String)
  /-- Becomes a program; failures are reported in the name of a command. -/
  | become (who : Option String) (args : List String)
  | function (body : Command) (args : List String)
  /-- The end of a function, with what its caller gets back. -/
  | returned (positional : List String) (locals : List (String × Option Variable))
  /-- The end of a script file that was read by a command. -/
  | sourced
  /-- The redirected descriptors, each with its copy if it was open. -/
  | restore (kept : List (Nat × Option Nat))
  | andThen (c : Command)
  | orElse (c : Command)
  | negate
  | branch (yes no : Command)
  | loopTest (inverted : Bool) (test body : Command) (last : Nat)
  | loopAgain (inverted : Bool) (test body : Command)
  | forNext (name : String) (values : List String) (body : Command)
  /-- The stages of a pipeline that are not started; the flag tells that there is input for the
  first of them. -/
  | stages (input : Bool) (rest : List Command) (pids : List Nat)
  | await (pids : List Nat)
  /-- Reads the output of a command substitution. -/
  | collect (output : List Bytes) (pid : Nat)
  /-- Waits for a command substitution whose output is known. -/
  | collected (output : List Char) (pid : Nat)
  /-- Reads one line into variables. -/
  | readLine (raw : Bool) (line : List (Char × Bool)) (escaped : Bool) (names : List String)
  /-- Reads more of a script from standard input. -/
  | readScript (rest : List Char) (lines : Nat)
  /-- Reads a script from an open file. -/
  | readFile (content : List Bytes)
  /-- Tells what a name stands for, by the first program among the paths; `wordy` makes it a
  sentence. -/
  | locate (wordy : Bool) (name : String) (paths : List String)
  /-- Evaluates a condition once all its files are known. -/
  | condition (who : String) (args : List String) (paths : List String)
    (known : List (String × Option Node))
  | waitAll
  | waitFor (pids : List Nat)
  | setStatus (n : Nat)
  /-- The end of the action of a trap, with the status from before. -/
  | trapped (status : Nat)
  /-- A failure here ends the shell unless it is tested. -/
  | checked
  | leave (status : Nat)
  | call (c : Call Empty) (after : After)
  | fork (child : List Frame) (after : After)

namespace Frame

/-- Whether a frame tests the status of what is above it. -/
def tests : Frame → Bool
  | andThen _ | orElse _ | negate | branch .. | loopTest .. => true
  | _ => false

def isLoop : Frame → Bool
  | loopTest .. | loopAgain .. | forNext .. => true
  | _ => false

end Frame

/-- A background child: its number, and its status once it is known. -/
structure Job where
  pid : Nat
  status : Option Nat := none
deriving DecidableEq

end Shell

structure Shell where
  store : Shell.Store
  functions : List (String × Shell.Command) := []
  /-- The actions for signals, number 0 being the exit of the shell. -/
  traps : List (Nat × String) := []
  /-- Signals that were caught and whose actions have not been run. -/
  caught : List Nat := []
  jobs : List Shell.Job := []
  /-- The status of the last command substitution of a command. -/
  substituted : Option Nat := none
  /-- The line of the current command. -/
  line : Nat := 1
  /-- Whether this is a child of a shell. -/
  isChild : Bool := false
  frames : List Shell.Frame := []

namespace Shell

/-- Puts frames on top. -/
def push (sh : Shell) (fs : List Frame) : Shell := { sh with frames := fs ++ sh.frames }

def setStatus (sh : Shell) (n : Nat) : Shell := { sh with store := { sh.store with status := n } }

/-- Writes a text to standard error. -/
def toStderr (text : String) : Frame := .call (.write 2 (Octets.toBytes text)) .ignore

/-- Writes a line to standard output. -/
def toOutput (line : String) : Frame := .call (.write 1 (Octets.toBytes (line ++ "\n"))) .ignore

/-- A text in the name of a command. -/
def inNameOf (who : Option String) (text : String) : String :=
  match who with
  | some name => name ++ ": " ++ text
  | none => text

/-- The message of an error with its place. -/
def complaint (sh : Shell) (text : String) : Frame :=
  toStderr (sh.store.shellName ++ ": " ++ toString sh.line ++ ": " ++ text ++ "\n")

/-- Reports an error and sets the status. -/
def complain (sh : Shell) (text : String) (status : Nat) : Shell :=
  sh.push [sh.complaint text, .setStatus status]

/-- Reports an error that ends the shell. -/
def abort (sh : Shell) (text : String) (status : Nat) : Shell :=
  { sh with frames := [sh.complaint text, .leave status] }

/-- The status of a child by its raw wait status. -/
def childStatus (raw : Int) : Nat :=
  if raw % 128 = 0 then (raw / 256).toNat else 128 + (raw % 128).toNat

/-- What is said about a child that was ended by a signal; an interrupt and a broken pipe are passed
over. -/
def obituary (raw : Int) : List Frame :=
  let number := (raw % 128).toNat
  if number = 0 || number = Signal.interrupt || number = Signal.brokenPipe then []
  else [toStderr (Signal.description number ++ "\n")]

/-- The calls that undo redirections. -/
def restoring (kept : List (Nat × Option Nat)) : List Frame :=
  kept.flatMap fun
    | (fd, some copy) => [.call (.duplicate copy fd) .ignore, .call (.close copy) .ignore]
    | (fd, none) => [.call (.close fd) .ignore]

/-- Leaves frames up to the `n`-th loop, which stays if `again`. -/
def unwindLoop (again : Bool) : Nat → List Frame → List Frame
  | _, [] => []
  | n, f :: fs =>
    match f with
    | .returned .. | .sourced => f :: fs
    | .restore _ | .unbind _ => f :: unwindLoop again n fs
    | _ =>
      if f.isLoop then
        if n ≤ 1 then if again then f :: fs else fs
        else unwindLoop again (n - 1) fs
      else unwindLoop again n fs

/-- Leaves frames up to the end of the current function or script file. -/
def unwindFunction : List Frame → List Frame
  | [] => []
  | f :: fs =>
    match f with
    | .returned .. | .sourced => f :: fs
    | .restore _ | .unbind _ => f :: unwindFunction fs
    | _ => unwindFunction fs

/-- Leaves the command whose redirection failed; its redirections are undone. -/
def unwindRedirection : List Frame → List Frame
  | [] => []
  | f :: fs =>
    match f with
    | .restore _ => f :: fs
    | _ => unwindRedirection fs

/-- The number of a free descriptor for a copy. -/
def freeCopy (fs : List Frame) : Nat :=
  fs.foldl (fun n f =>
    match f with
    | .restore kept => n + kept.length
    | _ => n) 100

/-- Notes a kept descriptor in the nearest frame that will give it back. -/
def noteKept (fd : Nat) (copy : Option Nat) : List Frame → List Frame
  | [] => []
  | .restore kept :: fs => .restore ((fd, copy) :: kept) :: fs
  | f :: fs => f :: noteKept fd copy fs

/-- What a child of the shell starts with: traps are not inherited, unless they ignore a signal. -/
def child (sh : Shell) (fs : List Frame) : Shell :=
  let caught := sh.traps.filter fun (n, action) => n ≠ 0 && action ≠ ""
  { sh with
    traps := sh.traps.filter fun (n, action) => n ≠ 0 && action = ""
    caught := []
    jobs := []
    isChild := true
    frames := caught.map (fun (n, _) => .call (.arrange n .default) .ignore) ++ fs }

/-- Whether a status that is left to this stack is tested by a frame of it. -/
def isTested (fs : List Frame) : Bool := fs.any Frame.tests

/-- The places where a command is looked for. -/
def searchPlaces (sh : Shell) (name : String) : List String :=
  if name.toList.contains '/' then [name]
  else
    match sh.store.value? "PATH" with
    | some path => candidates (some path) name
    | none => []

end Shell

end Confine.Host
