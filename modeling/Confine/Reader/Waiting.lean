import Confine.Reader

/-!
Waits on a reader. A wait does nothing between two polls; it remembers how many signals had been
given when it went to sleep, and sleeps on until there is a new one.
-/

namespace Confine

/-- The state of a wait after a poll. -/
inductive Poll (α : Type) where
  | ready (value : α)
  /-- Asleep since so many signals. -/
  | asleep (signals : Nat)
deriving DecidableEq

namespace Reader

/-- Polls a wait for the next chunk; it gets nothing once the reader is closed and drained. The
second argument is the signal count at which the wait fell asleep, if it did. -/
def pollRead (r : Reader) (asleep : Option Nat) : Reader × Poll (Option Bytes) :=
  if asleep = some r.arrivals then (r, .asleep r.arrivals)
  else
    match r.read with
    | (r, .data chunk) => (r, .ready (some chunk))
    | (r, .closed) => (r, .ready none)
    | (r, .empty) => (r, .asleep r.arrivals)

/-- Polls a wait for everything until the reader closes. The chunks that it finds are gone from the
reader, and what it has is returned in both cases. -/
def pollReadToEnd (r : Reader) (taken : Bytes) (asleep : Option Nat) :
    Reader × Bytes × Poll Unit :=
  if asleep = some r.arrivals then (r, taken, .asleep r.arrivals)
  else
    let (r, chunks, next) := r.drain
    let taken := taken ++ chunks.flatten
    if next = .closed then (r, taken, .ready ()) else (r, taken, .asleep r.arrivals)

/-- Polls a producer's wait for room. -/
def pollWritable (r : Reader) (asleep : Option Nat) : Poll Unit :=
  if asleep = some r.drains then .asleep r.drains
  else if r.writable then .ready ()
  else .asleep r.drains

end Reader

end Confine
