import Confine.Config
import Confine.Data.Basic
import Confine.Event.Hub

/-!
The values of the library as structured data, and their reading back.
-/

namespace Confine

namespace Data

/-- A number, or `null`. -/
def ofNat? : Option Nat → Data
  | some n => int n
  | none => null

end Data

namespace DataNotice

def toData (n : DataNotice) : Data := .object [("fd", .int n.fd), ("len", .int n.len)]

def ofData (f : DataFormat) (d : Data) : Option DataNotice := do
  match ← d.fields f ["fd", "len"] with
  | [fd, len] =>
    some ⟨← Data.required? Data.int32? fd, ← Data.required? (Data.nat? wordBound) len⟩
  | _ => none

end DataNotice

namespace EngineFault

def toData : EngineFault → Data
  | unknownDescriptor fd => .object [("fault", .text "unknown_descriptor"), ("fd", .int fd)]
  | bytesDropped fd count =>
    .object [("fault", .text "bytes_dropped"), ("fd", .int fd), ("count", .int count)]

def ofData (f : DataFormat) (level : Nat) (d : Data) : Option EngineFault := do
  let (name, rest) ← d.taggedInside f level "fault"
  match name with
  | "unknown_descriptor" =>
    match ← rest.fields ["fd"] with
    | [fd] => some (.unknownDescriptor (← Data.required? Data.int32? fd))
    | _ => none
  | "bytes_dropped" =>
    match ← rest.fields ["fd", "count"] with
    | [fd, count] =>
      some (.bytesDropped (← Data.required? Data.int32? fd)
        (← Data.required? (Data.nat? wordBound) count))
    | _ => none
  | _ => none

end EngineFault

namespace BufferPolicy

def toData : BufferPolicy → Data
  | unbounded => .object [("mode", .text "unbounded")]
  | dropNewest n => .object [("mode", .text "drop_newest"), ("capacity", .int n)]
  | suspend n => .object [("mode", .text "suspend"), ("capacity", .int n)]

/-- The capacity beside a mode. -/
def capacityOf (rest : Data.Rest) : Option Nat := do
  match ← rest.fields ["capacity"] with
  | [capacity] => Data.required? (Data.nat? wordBound) capacity
  | _ => none

def ofData (f : DataFormat) (level : Nat) (d : Data) : Option BufferPolicy := do
  let (name, rest) ← d.taggedInside f level "mode"
  match name with
  | "unbounded" => if rest.noFields then some unbounded else none
  | "drop_newest" => (capacityOf rest).map dropNewest
  | "suspend" => (capacityOf rest).map suspend
  | _ => none

end BufferPolicy

namespace Termination

def toData : Termination → Data
  | exited code => .object [("kind", .text "exited"), ("code", .int code)]
  | signaled number => .object [("kind", .text "signaled"), ("code", .int number)]
  | spawnFailed => .object [("kind", .text "spawn_failed")]

def ofData (f : DataFormat) (level : Nat) (kept : Bool) (d : Data) : Option Termination := do
  let (name, content, _) ←
    d.taggedBeside f level kept "kind" "code" ["exited", "signaled", "spawn_failed"]
  match name with
  | "exited" => (Data.required? Data.int32? content).map exited
  | "signaled" => (Data.required? Data.int32? content).map signaled
  | "spawn_failed" => (Data.noContent content).map fun _ => spawnFailed
  | _ => none

end Termination

namespace Lifecycle

def toData : Lifecycle → Data
  | idle => .object [("state", .text "idle")]
  | spawning => .object [("state", .text "spawning")]
  | running => .object [("state", .text "running")]
  | terminated t => .object [("state", .text "terminated"), ("termination", t.toData)]

def ofData (f : DataFormat) (level : Nat) (d : Data) : Option Lifecycle := do
  let (name, content, kept) ← d.taggedBeside f level false "state" "termination"
    ["idle", "spawning", "running", "terminated"]
  match name with
  | "idle" => (Data.noContent content).map fun _ => idle
  | "spawning" => (Data.noContent content).map fun _ => spawning
  | "running" => (Data.noContent content).map fun _ => running
  | "terminated" =>
    (Data.required? (Termination.ofData f (level + 1) kept) content).map terminated
  | _ => none

end Lifecycle

namespace LifecycleEvent

def toData : LifecycleEvent → Data
  | started => .object [("event", .text "started")]
  | newSocket path => .object [("event", .text "new_socket"), ("value", .text path)]
  | exit status => .object [("event", .text "exit"), ("value", .int status)]
  | signal number => .object [("event", .text "signal"), ("value", .int number)]

def ofData (f : DataFormat) (level : Nat) (d : Data) : Option LifecycleEvent := do
  let (name, content, _) ← d.taggedBeside f level false "event" "value"
    ["started", "new_socket", "exit", "signal"]
  match name with
  | "started" => (Data.noContent content).map fun _ => started
  | "new_socket" => (Data.required? Data.text? content).map newSocket
  | "exit" => (Data.required? Data.int32? content).map exit
  | "signal" => (Data.required? Data.int32? content).map signal
  | _ => none

end LifecycleEvent

namespace Limits

def toData (l : Limits) : Data :=
  .object [("cpu_time_ms", .ofNat? l.cpuTimeMs), ("wall_time_ms", .ofNat? l.wallTimeMs),
    ("memory_mb", .ofNat? l.memoryMb), ("processes", .ofNat? l.processes),
    ("open_files", .ofNat? l.openFiles), ("fsize_kb", .ofNat? l.fsizeKb)]

/-- A limit, or its default if it is missing; `null` is no limit. -/
def limitOf (default : Option Nat) : Option Data → Option (Option Nat) :=
  Data.orDefault? (Data.optional? (Data.nat? limitBound)) default

def ofData (f : DataFormat) (d : Data) : Option Limits := do
  let default : Limits := {}
  match ← d.fields f
      ["cpu_time_ms", "wall_time_ms", "memory_mb", "processes", "open_files", "fsize_kb"] with
  | [cpu, wall, memory, processes, files, fsize] =>
    some { cpuTimeMs := ← limitOf default.cpuTimeMs cpu
           wallTimeMs := ← limitOf default.wallTimeMs wall
           memoryMb := ← limitOf default.memoryMb memory
           processes := ← limitOf default.processes processes
           openFiles := ← limitOf default.openFiles files
           fsizeKb := ← limitOf default.fsizeKb fsize }
  | _ => none

end Limits

namespace Config

def toData (c : Config) : Data :=
  .object [("debug_on_crash", .bool c.debugOnCrash), ("output_buffer", c.outputBuffer.toData),
    ("high_water_mark", .int c.highWaterMark), ("event_capacity", .int c.eventCapacity),
    ("working_dir", match c.workingDir with
      | some dir => .text dir
      | none => .null),
    ("limits", c.limits.toData)]

/-- The default configuration with the fields that are given. -/
def ofData (f : DataFormat) (d : Data) : Option Config := do
  let default : Config := {}
  match ← d.fields f ["debug_on_crash", "output_buffer", "high_water_mark", "event_capacity",
      "working_dir", "limits"] with
  | [debug, buffer, mark, capacity, dir, limits] =>
    some { debugOnCrash := ← Data.orDefault? Data.bool? default.debugOnCrash debug
           outputBuffer := ← Data.orDefault? (BufferPolicy.ofData f 2) default.outputBuffer buffer
           highWaterMark := ← Data.orDefault? (Data.nat? wordBound) default.highWaterMark mark
           eventCapacity := ← Data.orDefault? (Data.nat? wordBound) default.eventCapacity capacity
           workingDir := ← Data.orDefault? (Data.optional? Data.text?) default.workingDir dir
           limits := ← Data.orDefault? (Limits.ofData f) default.limits limits }
  | _ => none

end Config

end Confine
