import Confine.Text.Blank
import Confine.Text.Decimal

/-!
How an output reader buffers bytes that nobody has taken yet, and the written form of the policy.
-/

namespace Confine

/-- Sizes and capacities are below this bound. -/
def wordBound : Nat := 0x10000000000000000

/-- Limits are below this bound. -/
def limitBound : Nat := 0x100000000

inductive BufferPolicy where
  /-- Keep everything. -/
  | unbounded
  /-- Keep at most `capacity` bytes, drop and count the rest. -/
  | dropNewest (capacity : Nat)
  /-- Keep everything, and hold the producer back from `capacity` bytes on. -/
  | suspend (capacity : Nat)
deriving DecidableEq

namespace BufferPolicy

/-- The ceiling of the buffer, if the policy has one. -/
def capacity? : BufferPolicy → Option Nat
  | unbounded => none
  | dropNewest n | suspend n => some n

/-- Why a text is no policy. -/
inductive ParseError where
  | missingCapacity (mode : String)
  | invalidCapacity (text : String)
  | unknownMode (mode : String)
deriving DecidableEq

def ParseError.message : ParseError → String
  | missingCapacity mode => "buffer mode '" ++ mode ++ "' needs a capacity"
  | invalidCapacity text => "invalid buffer capacity '" ++ text ++ "'"
  | unknownMode mode => "unknown buffer mode '" ++ mode ++ "'"

/-- The mode and the capacity part, both trimmed, divided at the first colon. -/
def parts (s : List Char) : List Char × Option (List Char) :=
  match Text.splitAtFirst ':' s with
  | some (mode, capacity) => (Text.trim mode, some (Text.trim capacity))
  | none => (Text.trim s, none)

/-- Reads the capacity that a bounded mode needs. -/
def readCapacity (mode : List Char) : Option (List Char) → Except ParseError Nat
  | none => .error (.missingCapacity (String.ofList mode))
  | some text =>
    match Text.readNat? wordBound text with
    | some n => .ok n
    | none => .error (.invalidCapacity (String.ofList text))

/-- Reads `unbounded`, `drop:n`, `drop_newest:n` or `suspend:n`; an unknown mode is reported before
a bad capacity. -/
def parse (s : String) : Except ParseError BufferPolicy :=
  let (mode, capacity) := parts s.toList
  if mode = "unbounded".toList then .ok unbounded
  else if mode = "drop".toList ∨ mode = "drop_newest".toList then
    (readCapacity mode capacity).map dropNewest
  else if mode = "suspend".toList then (readCapacity mode capacity).map suspend
  else .error (.unknownMode (String.ofList mode))

/-- The written form that `parse` reads back. -/
def render : BufferPolicy → String
  | unbounded => "unbounded"
  | dropNewest n => String.ofList ("drop:".toList ++ Text.natText n)
  | suspend n => String.ofList ("suspend:".toList ++ Text.natText n)

end BufferPolicy

end Confine
