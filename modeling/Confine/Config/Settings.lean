import Confine.Config

/-!
Configurations in named settings, such as the variables of an environment: each field has a setting
of its own, and a setting that is missing, blank or malformed leaves the default.
-/

namespace Confine

/-- The values of settings by their names. -/
abbrev Settings := String → Option String

namespace Settings

/-- A setting's text, unless it is blank. -/
def text? (s : Settings) (name : String) : Option String :=
  (s name).filter fun v => !Text.isBlankText v.toList

/-- A setting read as a number below a bound. -/
def nat? (s : Settings) (bound : Nat) (name : String) : Option Nat :=
  (s.text? name).bind fun v => Text.readNat? bound (Text.trim v.toList)

/-- A setting read as a buffer policy. -/
def policy? (s : Settings) (name : String) : Option BufferPolicy :=
  (s.text? name).bind fun v => (BufferPolicy.parse v).toOption

/-- A setting read as a flag: it is set by `true` and by `1`, and by no other text. -/
def flag? (s : Settings) (name : String) : Option Bool :=
  (s.text? name).map fun v => v = "true" || v = "1"

/-- A limit, or its default. -/
def limit (s : Settings) (name : String) (default : Option Nat) : Option Nat :=
  match s.nat? limitBound name with
  | some n => some n
  | none => default

end Settings

/-- The limits given by settings. -/
def Limits.ofSettings (s : Settings) : Limits :=
  let d : Limits := {}
  { cpuTimeMs := s.limit "SANDBOX_CPU_TIME_MS" d.cpuTimeMs
    wallTimeMs := s.limit "SANDBOX_WALL_TIME_MS" d.wallTimeMs
    memoryMb := s.limit "SANDBOX_MEMORY_MB" d.memoryMb
    processes := s.limit "SANDBOX_PROCESSES" d.processes
    openFiles := s.limit "SANDBOX_OPEN_FILES" d.openFiles
    fsizeKb := s.limit "SANDBOX_FSIZE_KB" d.fsizeKb }

/-- The configuration given by settings. -/
def Config.ofSettings (s : Settings) : Config :=
  let d : Config := {}
  { debugOnCrash := (s.flag? "SANDBOX_DEBUG_ON_CRASH").getD d.debugOnCrash
    outputBuffer := (s.policy? "SANDBOX_OUTPUT_BUFFER").getD d.outputBuffer
    highWaterMark := (s.nat? wordBound "SANDBOX_HIGH_WATER_MARK").getD d.highWaterMark
    eventCapacity := (s.nat? wordBound "SANDBOX_EVENT_CAPACITY").getD d.eventCapacity
    workingDir := (s.text? "SANDBOX_WORKDIR").or d.workingDir
    limits := .ofSettings s }

/-- The settings of a configuration, with a decoration of the policy and the numbers, for each
setting its own; absent limits and an absent directory are left unset. -/
def Config.toSettings (c : Config) (decorate : String → String → String) : Settings := fun name =>
  let number (n : Nat) := decorate name (String.ofList (Text.natText n))
  match name with
  | "SANDBOX_DEBUG_ON_CRASH" => some (if c.debugOnCrash then "true" else "false")
  | "SANDBOX_OUTPUT_BUFFER" => some (decorate name c.outputBuffer.render)
  | "SANDBOX_HIGH_WATER_MARK" => some (number c.highWaterMark)
  | "SANDBOX_EVENT_CAPACITY" => some (number c.eventCapacity)
  | "SANDBOX_WORKDIR" => c.workingDir
  | "SANDBOX_CPU_TIME_MS" => c.limits.cpuTimeMs.map number
  | "SANDBOX_WALL_TIME_MS" => c.limits.wallTimeMs.map number
  | "SANDBOX_MEMORY_MB" => c.limits.memoryMb.map number
  | "SANDBOX_PROCESSES" => c.limits.processes.map number
  | "SANDBOX_OPEN_FILES" => c.limits.openFiles.map number
  | "SANDBOX_FSIZE_KB" => c.limits.fsizeKb.map number
  | _ => none

end Confine
