import Confine.Session.Basic

/-!
Engines that follow a script: it fixes the outcome of a spawn, the number of writes accepted, and
operations that the engine does while it is called. An engine that is called during such operations
does nothing more than answer.
-/

namespace Confine

structure Script where
  /-- The error that a spawn ends with; none for success. -/
  spawnError : Option EngineError := none
  /-- The number of writes that are accepted; none for all. -/
  writesAccepted : Option Nat := none
  onSpawn : Option (List Operation) := none
  onKill : Option (List Operation) := none
  onWrite : Option (List Operation) := none
  onClose : Option (List Operation) := none

/-- A scripted engine at work. -/
structure ScriptedEngine where
  script : Script
  /-- The writes received so far. -/
  writes : Nat := 0

namespace ScriptedEngine

/-- Whether the script accepts the next write. -/
def acceptsWrite (e : ScriptedEngine) : Bool :=
  match e.script.writesAccepted with
  | some n => e.writes < n
  | none => true

/-- The answer to a spawn. -/
def spawnOutcome (e : ScriptedEngine) : Except EngineError Unit :=
  match e.script.spawnError with
  | some error => .error error
  | none => .ok ()

end ScriptedEngine

/-- A call as an engine records it. -/
structure CallRecord where
  call : EngineCall
  /-- The program and the directory of a spawn as the path mapping gives them then. -/
  mapped : Option (String × Option String) := none
deriving DecidableEq

/-- A call with the reports of the operations done during it, if the script has any for it. -/
structure ScriptedCall where
  record : CallRecord
  steps : Option (List (Session.StepReport CallRecord))

namespace Session

/-- The record of a spawn, with the paths mapped as of now. -/
def spawnRecord (s : Session ε) (request : SpawnRequest) : CallRecord :=
  { call := .spawn request
    mapped := some (s.sandbox.mapping.map request.options.program,
      request.options.workDir.map s.sandbox.mapping.map) }

/-- Counts a write. -/
def countWrite (s : Session ScriptedEngine) : Session ScriptedEngine :=
  { s with engine := { s.engine with writes := s.engine.writes + 1 } }

end Session

namespace Script

/-- A link on which calls are only recorded and answered. -/
def quietLink : EngineLink ScriptedEngine CallRecord where
  spawn s request := (s, s.engine.spawnOutcome, [s.spawnRecord request])
  kill s := (s, [⟨.kill, none⟩])
  write s bytes := (s.countWrite, s.engine.acceptsWrite, [⟨.writeStdin bytes, none⟩])
  close s := (s, [⟨.closeStdin, none⟩])
  settle attempt s := attempt s

/-- Does the operations that the script has for a call. -/
def during (ops : Option (List Operation)) (record : CallRecord) (s : Session ScriptedEngine) :
    Session ScriptedEngine × List ScriptedCall :=
  match ops with
  | none => (s, [⟨record, none⟩])
  | some ops =>
    let (s, reports) := s.run quietLink ops
    (s, [⟨record, some reports⟩])

/-- A link on which the script's operations are done during each call. -/
def link : EngineLink ScriptedEngine ScriptedCall where
  spawn s request :=
    let (s', calls) := during s.engine.script.onSpawn (s.spawnRecord request) s
    (s', s.engine.spawnOutcome, calls)
  kill s := during s.engine.script.onKill ⟨.kill, none⟩ s
  write s bytes :=
    let (s', calls) := during s.engine.script.onWrite ⟨.writeStdin bytes, none⟩ s.countWrite
    (s', s.engine.acceptsWrite, calls)
  close s := during s.engine.script.onClose ⟨.closeStdin, none⟩ s
  settle attempt s := attempt s

end Script

end Confine
