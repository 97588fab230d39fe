import Confine.Host.Process

/-!
The machine that runs a group of processes. In a round every process that can go on does so by one
call, and the clock advances by the time of the longest one; when none can, the clock jumps to the
next event. So the result of a run is determined by what is fed in.
-/

namespace Confine.Host

structure Machine where
  files : Files
  clock : Nat := 0
  /-- In the order of their numbers; the first one ever made leads the group. -/
  processes : List Process := []
  leader : Nat := 0
  opened : List (Nat × OpenFile) := []
  /-- The bytes in each pipe. -/
  pipes : List (Nat × Bytes) := []
  nextPid : Nat := 0
  nextOpened : Nat := 0
  nextPipe : Nat := 0
  /-- Whether the outer end of the leader's standard input is open. -/
  inputOpen : Bool := true

namespace Machine

/-- The pipes at the leader's standard input, output and error. -/
def inputPipe : Nat := 0

def outputPipe : Nat := 1

def errorPipe : Nat := 2

/-- The bytes that a pipe holds. -/
def pipeCapacity : Nat := 65536

def find? (m : Machine) (pid : Nat) : Option Process := m.processes.find? fun p => p.pid = pid

/-- Changes a process. -/
def modify (m : Machine) (pid : Nat) (f : Process → Process) : Machine :=
  { m with processes := m.processes.map fun p => if p.pid = pid then f p else p }

/-- Lets a process go on from a reply. -/
def reply (m : Machine) (pid : Nat) (r : Reply) : Machine := m.modify pid (·.resume r)

/-- Forgets ended processes that nobody waits for: those whose parent has ended, but not the
leader. -/
def bury (m : Machine) : Machine :=
  { m with
    processes := m.processes.filter fun p =>
      p.isLive || p.pid = m.leader || (m.find? p.parent).any (·.isLive) }

/-- Delivers a signal to a process. -/
def signal (m : Machine) (pid number : Nat) : Machine := (m.modify pid (·.deliver number)).bury

/-- Ends the whole group. -/
def killGroup (m : Machine) : Machine :=
  { m with processes := m.processes.map (Process.deliver · Signal.kill) }.bury

def openFile? (m : Machine) (p : Process) (fd : Nat) : Option (Nat × OpenFile) :=
  (p.descriptors.lookup fd).bind fun id => (m.opened.lookup id).map (id, ·)

/-- Whether a descriptor of a live process leads to an open file of a kind. -/
def anyOpen (m : Machine) (kind : OpenFile → Bool) : Bool :=
  m.processes.any fun p => p.descriptors.any fun (_, id) => (m.opened.lookup id).any kind

/-- Whether something can still be written to a pipe. -/
def hasWriters (m : Machine) (pipe : Nat) : Bool :=
  (pipe = inputPipe && m.inputOpen) || m.anyOpen fun f => f = .pipeWrite pipe

/-- Whether somebody can still read from a pipe. -/
def hasReaders (m : Machine) (pipe : Nat) : Bool :=
  pipe = outputPipe || pipe = errorPipe || m.anyOpen fun f => f = .pipeRead pipe

def content (m : Machine) (pipe : Nat) : Bytes := (m.pipes.lookup pipe).getD []

def setContent (m : Machine) (pipe : Nat) (b : Bytes) : Machine :=
  { m with pipes := m.pipes.map fun (n, old) => if n = pipe then (n, b) else (n, old) }

def setOpened (m : Machine) (id : Nat) (f : OpenFile) : Machine :=
  { m with opened := m.opened.map fun (n, old) => if n = id then (n, f) else (n, old) }

/-- Forgets open files that no descriptor leads to, and pipes that no open file leads to. -/
def tidy (m : Machine) : Machine :=
  let opened := m.opened.filter fun (id, _) =>
    m.processes.any fun p => p.descriptors.any fun (_, other) => other = id
  let pipes := m.pipes.filter fun (n, _) =>
    n ≤ errorPipe || opened.any fun (_, f) => f = .pipeRead n || f = .pipeWrite n
  { m with opened, pipes }

/-- Opens a file under a descriptor of a process. -/
def attach (m : Machine) (pid fd : Nat) (f : OpenFile) : Machine :=
  { m with opened := m.opened ++ [(m.nextOpened, f)], nextOpened := m.nextOpened + 1 }.modify pid
    (·.bind fd m.nextOpened)

/-- Reads from a descriptor; none while there is nothing to read. -/
def read (m : Machine) (p : Process) (fd max : Nat) : Option Machine :=
  match m.openFile? p fd with
  | none => some (m.reply p.pid (.failed .badDescriptor))
  | some (id, f) =>
    match f with
    | .pipeRead pipe =>
      let b := m.content pipe
      if !b.isEmpty then
        some ((m.setContent pipe (b.drop max)).reply p.pid (.data (b.take max)))
      else if !m.hasWriters pipe then some (m.reply p.pid (.data []))
      else if p.interrupted then some (m.reply p.pid .interrupted)
      else none
    | .pipeWrite _ => some (m.reply p.pid (.failed .badDescriptor))
    | .null => some (m.reply p.pid (.data []))
    | .zero | .full => some (m.reply p.pid (.data (List.replicate max 0)))
    | .text rest =>
      some ((m.setOpened id (.text (rest.drop max))).reply p.pid (.data (rest.take max)))
    | .file at_ offset appends =>
      match m.files.find? at_ with
      | some (.file content) =>
        let b := (content.drop offset).take max
        some ((m.setOpened id (.file at_ (offset + b.length) appends)).reply p.pid (.data b))
      | _ => some (m.reply p.pid (.data []))
    | .directory => some (m.reply p.pid (.failed .isDirectory))

/-- Raises a signal over a failed write, and the write fails if the process lives on. -/
def failWrite (m : Machine) (pid number : Nat) (e : OsError) : Machine :=
  let m := m.signal pid number
  if (m.find? pid).any (·.isLive) then m.reply pid (.failed e) else m

/-- Puts bytes into a file at an offset; a gap is filled with zeros. -/
def overwrite (old : Bytes) (offset : Nat) (b : Bytes) : Bytes :=
  old.take offset ++ List.replicate (offset - old.length) 0 ++ b ++ old.drop (offset + b.length)

/-- Writes to a file; what goes beyond the bound on its size fails. -/
def writeFile (m : Machine) (p : Process) (id : Nat) (at_ : Location) (offset : Nat)
    (appends : Bool) (b : Bytes) : Machine :=
  let old := match m.files.find? at_ with
    | some (.file content) => content
    | _ => []
  let offset := if appends then old.length else offset
  let room := match (p.limits.get .fileSize).soft with
    | some n => n - offset
    | none => b.length
  let part := b.take room
  if part.isEmpty && !b.isEmpty then m.failWrite p.pid Signal.fileSize .fileTooLarge
  else
    let m := { m with files := m.files.put at_ (.file (overwrite old offset part)) }
    let m := m.setOpened id (.file at_ (offset + part.length) appends)
    if part.length = b.length then m.reply p.pid .done
    else m.modify p.pid fun p => { p with written := p.written + part.length, used := p.used + 1 }

/-- Writes to a descriptor; none while there is no room. -/
def write (m : Machine) (p : Process) (fd : Nat) (bytes : Bytes) : Option Machine :=
  match m.openFile? p fd with
  | none => some (m.reply p.pid (.failed .badDescriptor))
  | some (id, f) =>
    let b := bytes.drop p.written
    match f with
    | .pipeWrite pipe =>
      if !m.hasReaders pipe then some (m.failWrite p.pid Signal.brokenPipe .brokenPipe)
      else
        let held := m.content pipe
        let room := pipeCapacity - held.length
        let part := b.take room
        if part.length = b.length then
          some ((m.setContent pipe (held ++ part)).reply p.pid .done)
        else if part.isEmpty then
          if p.interrupted then some (m.reply p.pid .interrupted) else none
        else
          some ((m.setContent pipe (held ++ part)).modify p.pid fun p =>
            { p with written := p.written + part.length, used := p.used + 1 })
    | .null | .zero => some (m.reply p.pid .done)
    | .full => some (m.reply p.pid (.failed .noSpace))
    | .file at_ offset appends => some (m.writeFile p id at_ offset appends b)
    | .pipeRead _ | .text _ | .directory => some (m.reply p.pid (.failed .badDescriptor))

/-- What opening an existing node gives. -/
def openNode (m : Machine) (p : Process) (fd : Nat) (at_ : Location) (node : Node)
    (mode : OpenMode) : Except OsError Machine :=
  match node with
  | .directory =>
    if mode = .reading then .ok (m.attach p.pid fd .directory) else .error .isDirectory
  | .file _ =>
    match mode with
    | .writing =>
      .ok ({ m with files := m.files.put at_ (.file []) }.attach p.pid fd (.file at_ 0 false))
    | .appending => .ok (m.attach p.pid fd (.file at_ 0 true))
    | .reading | .both => .ok (m.attach p.pid fd (.file at_ 0 false))
  | .program _ =>
    if mode = .reading then .ok (m.attach p.pid fd (.text [])) else .error .accessDenied
  | .null => .ok (m.attach p.pid fd .null)
  | .zero => .ok (m.attach p.pid fd .zero)
  | .full => .ok (m.attach p.pid fd .full)
  | .descriptor n =>
    match p.descriptors.lookup n with
    | some id => .ok (m.modify p.pid (·.bind fd id))
    | none => .error .noEntry
  | .limits => .ok (m.attach p.pid fd (.text (Octets.toBytes p.limits.render)))

/-- Opens a path; except for reading, a file is made if there is none. -/
def openPath (m : Machine) (p : Process) (fd : Nat) (path : String) (mode : OpenMode) :
    Except OsError Machine := do
  let at_ ← m.files.resolve p.dir path
  let m := m.tidy
  match m.files.find? at_ with
  | some node => m.openNode p fd at_ node mode
  | none =>
    if mode = .reading || at_.head? = some "proc" then throw .noEntry
    m.files.checkDirectory at_.dropLast
    let m := { m with files := m.files.put at_ (.file []) }
    return m.attach p.pid fd (.file at_ 0 (mode = OpenMode.appending))

/-- Removes a file, or with `tree` a directory. -/
def removeNode (m : Machine) (p : Process) (path : String) (tree : Bool) :
    Except OsError Machine := do
  match ← m.files.node p.dir path with
  | (at_, .file _) => return { m with files := m.files.remove at_ }
  | (at_, .directory) =>
    if tree then return { m with files := m.files.remove at_ } else throw .isDirectory
  | _ => throw .notPermitted

def makeDirectory (m : Machine) (p : Process) (path : String) : Except OsError Machine := do
  let at_ ← m.files.resolve p.dir path
  if (m.files.find? at_).isSome then throw .alreadyThere
  m.files.checkDirectory at_.dropLast
  return { m with files := m.files.put at_ .directory }

/-- Replies with what a call that can fail did. -/
def settle (m : Machine) (pid : Nat) (r : Except OsError Machine) : Machine :=
  match r with
  | .ok m => m.reply pid .done
  | .error e => m.reply pid (.failed e)

/-- Makes a pipe between two descriptors of a process. -/
def makePipe (m : Machine) (pid readEnd writeEnd : Nat) : Machine :=
  let m := m.tidy
  let pipe := m.nextPipe
  let m := { m with pipes := m.pipes ++ [(pipe, [])], nextPipe := pipe + 1 }
  (m.attach pid readEnd (.pipeRead pipe)).attach pid writeEnd (.pipeWrite pipe)

/-- Starts a child with the descriptors and arrangements of its parent. -/
def fork (m : Machine) (p : Process) (image : Image) : Machine :=
  let child : Process :=
    { p with
      pid := m.nextPid, parent := p.pid, image, used := 0, wakeAt := none, written := 0
      interrupted := false }
  let m := { m with processes := m.processes ++ [child], nextPid := m.nextPid + 1 }
  m.reply p.pid (.pid child.pid)

/-- The program that the first usable candidate names. A candidate that may not be run is passed
over, but remembered as the reason of a failure. -/
def findProgram (files : Files) (dir : Location) : List String → Except OsError Program
  | [] => .error .noEntry
  | path :: rest =>
    match files.program dir path with
    | .ok p => .ok p
    | .error e =>
      if rest.isEmpty then .error e
      else
        match findProgram files dir rest with
        | .ok p => .ok p
        | .error .noEntry => .error (if e = .accessDenied then e else .noEntry)
        | .error e' => .error e'

/-- Waits for a child, or for any; none while it runs. -/
def wait (m : Machine) (p : Process) (pid : Option Nat) : Option Machine :=
  let mine := m.processes.filter fun c =>
    c.parent = p.pid && c.pid ≠ p.pid && (pid.all fun n => c.pid = n)
  match mine.findSome? fun c => c.status.map (c.pid, ·) with
  | some (n, raw) =>
    some ({ m with processes := m.processes.filter fun c => c.pid ≠ n }.reply p.pid (.ended n raw))
  | none =>
    if mine.isEmpty then some (m.reply p.pid (.failed .noChild))
    else if p.interrupted then some (m.reply p.pid .interrupted)
    else none

/-- Signals the targets of a call. -/
def signalTarget (m : Machine) (p : Process) (target : Int) (number : Nat) : Machine :=
  let targets := m.processes.filter fun q =>
    if 0 < target then (q.pid : Int) = target
    else target = 0 || target = -1 || target = -(m.leader : Int)
  if targets.isEmpty then m.reply p.pid (.failed .noProcess)
  else if number = 0 then m.reply p.pid .done
  else
    let m := targets.foldl (fun m q => m.signal q.pid number) m
    if (m.find? p.pid).any (·.isLive) then m.reply p.pid .done else m

/-- Whether bounds can be set: the soft one is not above the hard one. -/
def isProper (b : Bound) : Bool :=
  match b.soft, b.hard with
  | _, none => true
  | none, some _ => false
  | some s, some h => s ≤ h

/-- Sets a bound. The hard one can only be lowered. -/
def setBound (m : Machine) (p : Process) (r : Resource) (b : Bound) : Except OsError Machine :=
  let old := (p.limits.get r).hard
  if !isProper b then .error .invalid
  else if isProper ⟨b.hard, old⟩ then
    .ok (m.modify p.pid fun p => { p with limits := p.limits.set r b })
  else .error .notPermitted

/-- Ends a process with a status. -/
def exit (m : Machine) (pid status : Nat) : Machine :=
  (m.modify pid (·.finish (WaitStatus.ofExit status))).bury

/-- Serves the call of a process; none if it has to wait. -/
def serve (m : Machine) (p : Process) : Option Machine :=
  match p.image.request with
  | .compute => some (m.reply p.pid .done)
  | .read fd max => m.read p fd max
  | .write fd bytes => m.write p fd bytes
  | .openPath fd path mode => some (m.settle p.pid (m.openPath p fd path mode))
  | .duplicate source target =>
    match p.descriptors.lookup source with
    | some id => some ((m.modify p.pid (·.bind target id)).reply p.pid .done)
    | none => some (m.reply p.pid (.failed .badDescriptor))
  | .close fd => some ((m.modify p.pid (·.unbind fd)).reply p.pid .done)
  | .pipe readEnd writeEnd => some ((m.makePipe p.pid readEnd writeEnd).reply p.pid .done)
  | .fork image => some (m.fork p image)
  | .execute candidates args env =>
    match findProgram m.files p.dir candidates with
    | .ok program => some (m.modify p.pid (·.become program args env))
    | .error e => some (m.reply p.pid (.failed e))
  | .wait pid => m.wait p pid
  | .signal target number => some (m.signalTarget p target number)
  | .arrange number d =>
    if Signal.canArrange number then
      some ((m.modify p.pid (·.arrange number d)).reply p.pid .done)
    else some (m.reply p.pid (.failed .invalid))
  | .sleep ticks =>
    match p.wakeAt with
    | none => some (m.modify p.pid ({ · with wakeAt := some (m.clock + ticks) }))
    | some t =>
      if t ≤ m.clock then some (m.reply p.pid .done)
      else if p.interrupted then some (m.reply p.pid .interrupted)
      else none
  | .changeDir path =>
    match m.files.directory p.dir path with
    | .ok dir => some ((m.modify p.pid ({ · with dir })).reply p.pid .done)
    | .error e => some (m.reply p.pid (.failed e))
  | .currentDir => some (m.reply p.pid (.text (Files.absolute p.dir)))
  | .getBound r => some (m.reply p.pid (.bound (p.limits.get r)))
  | .setBound r b => some (m.settle p.pid (m.setBound p r b))
  | .inspect path =>
    match m.files.node p.dir path with
    | .ok (_, n) => some (m.reply p.pid (.node n))
    | .error e => some (m.reply p.pid (.failed e))
  | .list path =>
    match m.files.directory p.dir path with
    | .ok dir => some (m.reply p.pid (.names (m.files.names dir)))
    | .error e => some (m.reply p.pid (.failed e))
  | .remove path tree => some (m.settle p.pid (m.removeNode p path tree))
  | .makeDir path => some (m.settle p.pid (m.makeDirectory p path))
  | .exit status => some (m.exit p.pid status)

/-- The processor time of a process, in ticks. -/
def used (m : Machine) (pid : Nat) : Nat := ((m.find? pid).map (·.used)).getD 0

/-- One turn of a process: it goes on if it can, and is held to its processor time. With the machine
comes the time that the turn took. -/
def turn (m : Machine) (pid : Nat) : Option (Machine × Nat) :=
  match m.find? pid with
  | none => none
  | some p =>
    if !p.isLive || p.stopped then none
    else
      (m.serve p).map fun m =>
        ((m.modify pid (·.holdToTime p.used)).bury, max 1 (m.used pid - p.used))

/-- Gives every process a turn. With the machine comes the time of the longest turn, which is zero
if no process could go on. -/
def round (m : Machine) : Machine × Nat :=
  m.processes.foldl (fun (m, longest) p =>
    match m.turn p.pid with
    | some (m, time) => (m, max longest time)
    | none => (m, longest)) (m, 0)

/-- The earliest end of a sleep. -/
def nextWake? (m : Machine) : Option Nat :=
  (m.processes.filterMap fun p => if p.stopped then none else p.wakeAt).min?

/-- Goes on by one round, or else to the next time at which something happens: the end of a sleep
or the deadline. None if nothing is going to happen any more. -/
def tick (m : Machine) (deadline : Option Nat) : Option Machine :=
  let (next, time) := m.round
  if time > 0 then some { next with clock := m.clock + time }
  else (m.nextWake?.toList ++ deadline.toList).min?.map fun t =>
    { m with clock := max (m.clock + 1) t }

/-- The room in the leader's standard input. -/
def inputRoom (m : Machine) : Nat := pipeCapacity - (m.content inputPipe).length

/-- Puts bytes into the leader's standard input. -/
def feed (m : Machine) (b : Bytes) : Machine :=
  m.setContent inputPipe (m.content inputPipe ++ b)

def closeInput (m : Machine) : Machine := { m with inputOpen := false }

/-- Whether the leader's standard input can still be read. -/
def inputHeld (m : Machine) : Bool := m.hasReaders inputPipe

/-- The raw wait status of the leader once it has ended. -/
def status? (m : Machine) : Option Int := (m.find? m.leader).bind (·.status)

/-- The number of the leader. -/
def firstPid : Nat := 1000

/-- A machine whose leader starts a program with pipes at its standard descriptors. -/
def boot (files : Files) (dir : Location) (limits : Rlimits) (program : Program)
    (args : List String) (env : Bindings) : Machine :=
  { files
    processes := [{ pid := firstPid, parent := 0, dir, limits
                    image := .start program firstPid args env
                    descriptors := [(0, 0), (1, 1), (2, 2)] }]
    leader := firstPid
    opened := [(0, .pipeRead inputPipe), (1, .pipeWrite outputPipe), (2, .pipeWrite errorPipe)]
    pipes := [(inputPipe, []), (outputPipe, []), (errorPipe, [])]
    nextPid := firstPid + 1
    nextOpened := 3
    nextPipe := 3 }

end Machine

end Confine.Host
