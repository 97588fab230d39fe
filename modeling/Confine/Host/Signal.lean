import Confine.Host.Octets

/-!
Signals by number: their names, their descriptions, and what they do to a process that has made no
arrangement for them.
-/

namespace Confine.Host

/-- What a process has arranged for a signal. -/
inductive Disposition where
  | default
  | ignored
  | caught
deriving DecidableEq

namespace Signal

/-- The signals with a name, from number 1 on. -/
def table : List (String × String) :=
  [("HUP", "Hangup"), ("INT", "Interrupt"), ("QUIT", "Quit"), ("ILL", "Illegal instruction"),
    ("TRAP", "Trace/breakpoint trap"), ("ABRT", "Aborted"), ("BUS", "Bus error"),
    ("FPE", "Floating point exception"), ("KILL", "Killed"), ("USR1", "User defined signal 1"),
    ("SEGV", "Segmentation fault"), ("USR2", "User defined signal 2"), ("PIPE", "Broken pipe"),
    ("ALRM", "Alarm clock"), ("TERM", "Terminated"), ("STKFLT", "Stack fault"),
    ("CHLD", "Child exited"), ("CONT", "Continued"), ("STOP", "Stopped (signal)"),
    ("TSTP", "Stopped"), ("TTIN", "Stopped (tty input)"), ("TTOU", "Stopped (tty output)"),
    ("URG", "Urgent I/O condition"), ("XCPU", "CPU time limit exceeded"),
    ("XFSZ", "File size limit exceeded"), ("VTALRM", "Virtual timer expired"),
    ("PROF", "Profiling timer expired"), ("WINCH", "Window changed"), ("IO", "I/O possible"),
    ("PWR", "Power failure"), ("SYS", "Bad system call")]

def interrupt : Nat := 2

def quit : Nat := 3

def kill : Nat := 9

def brokenPipe : Nat := 13

def terminate : Nat := 15

def resume : Nat := 18

def cpuTime : Nat := 24

def fileSize : Nat := 25

/-- The greatest signal number. -/
def last : Nat := 64

/-- The number of a name; the letters may be small. -/
def ofName? (name : String) : Option Nat :=
  let upper := String.ofList (name.toList.map Char.toUpper)
  (table.findIdx? fun (n, _) => n = upper).map (· + 1)

/-- The number that a text names, by digits or by name. -/
def parse? (s : String) : Option Nat :=
  match Octets.digits? s with
  | some n => if n ≤ last then some n else none
  | none => ofName? s

def name? (number : Nat) : Option String :=
  if number = 0 then none else table[number - 1]?.map (·.1)

def description (number : Nat) : String :=
  match if number = 0 then none else table[number - 1]? with
  | some (_, d) => d
  | none => "Real-time signal " ++ toString (number - 34)

/-- What becomes of a process that has made no arrangement for a signal. -/
inductive Effect where
  | terminates
  | nothing
  | stops
  | resumes
deriving DecidableEq

def effect (number : Nat) : Effect :=
  if number = 17 || number = 23 || number = 28 then .nothing
  else if number = resume then .resumes
  else if 19 ≤ number && number ≤ 22 then .stops
  else .terminates

/-- Whether a process can arrange anything for the signal. -/
def canArrange (number : Nat) : Bool := number ≠ kill && number ≠ 19

end Signal

end Confine.Host
