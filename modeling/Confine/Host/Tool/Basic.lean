import Confine.Host.Call
import Confine.Host.Tool.Filter

/-!
Programs other than the shell. Most of them send their inputs through a filter; the others make a
single system call.
-/

namespace Confine.Host

/-- How a program words the failures of its inputs and outputs. -/
structure Wording where
  cannotOpen : String → String → String
  cannotRead : String → String → String
  cannotWrite : String → String
  /-- The status after a failure. -/
  failure : Nat := 1
  /-- Whether a missing input ends the program. -/
  strict : Bool := false
  /-- The name of standard input. -/
  standardInput : String := "standard input"
  /-- Whether nothing is said about inputs that cannot be opened or read. -/
  silent : Bool := false

namespace Wording

/-- The wording with the name of the program, that of the file and the reason. -/
def plain (program : String) : Wording where
  cannotOpen path reason := program ++ ": " ++ path ++ ": " ++ reason
  cannotRead path reason := program ++ ": " ++ path ++ ": " ++ reason
  cannotWrite reason := program ++ ": write error: " ++ reason

end Wording

/-- A program that sends its inputs through a filter. -/
structure Streaming where
  wording : Wording
  filter : Filter
  /-- The inputs that are not opened yet; a dash is standard input. -/
  inputs : List String := []
  /-- The descriptor and the name of the input that is being read. -/
  reading : Option (Nat × String) := none
  /-- What is still to be written. -/
  pending : List (Nat × Bytes) := []
  /-- Further descriptors that get the output. -/
  copies : List Nat := []
  /-- A file that takes the place of standard output. -/
  target : Option String := none
  /-- Files that are to be opened as further outputs. -/
  copyPaths : List (String × OpenMode) := []
  status : Nat := 0
  /-- Whether nothing is left but to write and to exit. -/
  finishing : Bool := false

/-- A call, and what there is to say about its reply: texts for descriptors, and a status. -/
structure Errand where
  call : Call Empty
  report : Reply → List (Nat × String) × Nat

inductive Tool where
  | streaming (s : Streaming)
  | sleeping (ticks : Nat)
  /-- Becomes a program; the name is for the message if that fails. -/
  | launching (who : String) (args : List String) (env : Bindings)
  /-- Writes the working directory. -/
  | locating (who : String)
  /-- Evaluates a condition once all its files are known. -/
  | asking (who : String) (args paths : List String) (known : List (String × Option Node))
  /-- Writes texts, runs errands and exits with the worst status. -/
  | running (texts : List (Nat × String)) (es : List Errand) (status : Nat)
  | exiting (status : Nat)

namespace Streaming

/-- The descriptor of an input file. -/
def inputFile : Nat := 3

/-- The first descriptor of an output file. -/
def firstCopy : Nat := 4

/-- The bytes of one read. -/
def readSize : Nat := 65536

/-- Writes a text in the name of a program and exits. -/
def saying (program : String) (fd : Nat) (text : String) (status : Nat) : Streaming :=
  { wording := .plain program, filter := .copy, status, finishing := true
    pending := if text = "" then [] else [(fd, Octets.toBytes text)] }

/-- Notes output for standard output and its copies. -/
def emit (s : Streaming) (b : Bytes) : Streaming :=
  if b.isEmpty then s else { s with pending := s.pending ++ (1 :: s.copies).map (·, b) }

/-- Notes a message for standard error and the failure. -/
def complain (s : Streaming) (text : String) : Streaming :=
  { s with
    pending := s.pending ++ [(2, Octets.toBytes (text ++ "\n"))]
    status := s.wording.failure
    finishing := s.finishing || s.wording.strict }

/-- Notes the failure of an input. -/
def failInput (s : Streaming) (text : String) : Streaming :=
  if s.wording.silent then { s with status := s.wording.failure } else s.complain text

/-- Opens the next input. -/
def begin_ (s : Streaming) (fd : Nat) (name : String) (rest : List String) : Streaming :=
  let shown := if fd = 0 then s.wording.standardInput else name
  let (filter, out) := s.filter.begin_ shown
  { s with filter, inputs := rest, reading := some (fd, name) }.emit out

/-- Ends the current input. -/
def endInput (s : Streaming) (name : String) : Streaming :=
  let (filter, out) := s.filter.end_ name
  { s with filter, reading := none }.emit out

/-- Takes what the filter has to say at the end. -/
def finish (s : Streaming) : Streaming :=
  let (out, status) := s.filter.finish
  let status := if s.status = 0 then status.getD 0 else s.status
  { s with status, finishing := true }.emit out

def request (s : Streaming) : Call Empty :=
  match s.pending with
  | (fd, b) :: _ => .write fd b
  | [] =>
    if s.finishing then .exit s.status
    else
      match s.target, s.copyPaths with
      | some path, _ => .openPath 1 path .writing
      | none, (path, mode) :: _ => .openPath (firstCopy + s.copies.length) path mode
      | none, [] =>
        match s.reading with
        | some (fd, _) => if s.filter.isDone then .compute else .read fd readSize
        | none =>
          match s.inputs with
          | [] => .compute
          | "-" :: _ => .compute
          | path :: _ => .openPath inputFile path .reading

def resume (s : Streaming) (reply : Reply) : Streaming :=
  match s.pending with
  | (fd, _) :: rest =>
    match reply with
    | .failed e =>
      if fd = 1 then
        { s with pending := [], finishing := true }.complain (s.wording.cannotWrite e.description)
      else { s with pending := rest }
    | _ => { s with pending := rest }
  | [] =>
    match s.target, s.copyPaths with
    | some path, _ =>
      match reply with
      | .failed e =>
        { s with target := none, finishing := true }.complain
          (s.wording.cannotOpen path e.description)
      | _ => { s with target := none }
    | none, (path, _) :: rest =>
      match reply with
      | .failed e =>
        { s with copyPaths := rest }.complain (s.wording.cannotOpen path e.description)
      | _ => { s with copyPaths := rest, copies := s.copies ++ [firstCopy + s.copies.length] }
    | none, [] =>
      match s.reading with
      | some (_, name) =>
        if s.filter.isDone then s.endInput name
        else
          match reply with
          | .data [] => s.endInput name
          | .data b =>
            let (filter, out) := s.filter.feed b
            { s with filter }.emit out
          | .failed e => (s.endInput name).failInput (s.wording.cannotRead name e.description)
          | _ => s
      | none =>
        match s.inputs with
        | [] =>
          match s.filter with
          | .endless text => s.emit text
          | _ => s.finish
        | "-" :: rest => s.begin_ 0 "-" rest
        | path :: rest =>
          match reply with
          | .failed e =>
            { s with inputs := rest }.failInput (s.wording.cannotOpen path e.description)
          | _ => s.begin_ inputFile path rest

end Streaming

namespace Tool

/-- A program that writes a text and exits. -/
def saying (program text : String) (status : Nat) : Tool :=
  .streaming (.saying program 1 text status)

/-- A program that writes a message to standard error and exits. -/
def failing (text : String) (status : Nat) : Tool := .streaming (.saying "" 2 (text ++ "\n") status)

def request : Tool → Call Empty
  | streaming s => s.request
  | sleeping ticks => .sleep ticks
  | launching _ args env => .execute (candidates (List.lookup "PATH" env) (args.headD "")) args env
  | locating _ => .currentDir
  | asking _ _ (path :: _) _ => .inspect path
  | asking .. => .compute
  | running ((fd, text) :: _) _ _ => .write fd (Octets.toBytes text)
  | running [] (e :: _) _ => e.call
  | running [] [] status | exiting status => .exit status

end Tool

end Confine.Host
