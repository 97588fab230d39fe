import Confine.Reader.Waiting
import Confine.Sandbox.Basic

/-!
The operations of a session on one sandbox, done by its owner, by holders of its channels and by its
engine, and their answers.
-/

namespace Confine

/-- A wait that a session can create. -/
inductive Wait where
  | read (stream : Stream)
  | readToEnd (stream : Stream)
  | readerWritable (stream : Stream)
  | sinkWritable (fd : Int)
  | termination
deriving DecidableEq

inductive Operation where
  /-- Writes to the child's stdin. -/
  | write (bytes : Bytes)
  /-- Closes the child's stdin. -/
  | endStdin
  /-- Reads at most `max` bytes; without a bound, the oldest chunk. -/
  | read (stream : Stream) (max : Option Nat)
  /-- Reads until there is no more data. -/
  | drain (stream : Stream)
  | describeReader (stream : Stream)
  /-- The engine reports an event and looks at the answer if `answered`. -/
  | report (event : EngineEvent) (answered : Bool)
  /-- Whether the engine's sink still has a sandbox. -/
  | attached
  | create (id : String) (wait : Wait)
  | poll (id : String)
  /-- Lets the child run until the wait is over. -/
  | await (id : String)
  | cancel (id : String)
  | receive (id : String)
  | receiveAll (id : String)
  | unsubscribe (id : String)
  /-- Maps a path as the engine would. -/
  | map (path : String)
  | dropSandbox
  | spawn (options : SpawnOptions)
  | kill
  | state
  | describe
  | describeHub
  | setDebug (value : Bool)
  | getDebug
  | setMapping (f : PathMap)
  | resetMapping
  | countSubscribers
  | subscribe (id : String) (topic : Topic)

/-- What a finished wait yields. -/
inductive WaitValue where
  | chunk (bytes : Option Bytes)
  | all (bytes : Bytes)
  | writable (result : Except SandboxError Unit)
  | termination (t : Termination)

/-- What an operation yields if it succeeds. -/
inductive Success where
  | nothing
  | flag (value : Bool)
  | count (n : Nat)
deriving DecidableEq

inductive Answer where
  | nothing
  | flag (value : Bool)
  | count (n : Nat)
  | text (s : String)
  | result (r : Except SandboxError Success)
  | read (outcome : ReadOutcome)
  | reads (outcomes : List ReadOutcome)
  | reader (fd : Int) (policy : BufferPolicy) (diagnostic : String)
  | pending
  | ready (value : WaitValue)
  | received (r : Received Message)
  | receivedAll (rs : List (Received Message))
  /-- The engine has not been asked to spawn yet, so it has no sink. -/
  | noSink
  /-- The engine has not been asked to spawn yet, so it has no mapping. -/
  | noRequest
  | noTask
  | noSubscription
  | dropped
  | timeout

end Confine
