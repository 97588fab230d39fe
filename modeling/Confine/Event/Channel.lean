/-!
Two kinds of event channels. Both keep everything that was sent, and a subscriber is a position in
that record. A lossless channel delivers all that follows the position; a ring keeps its latest
messages only and tells a subscriber that fell behind how many it missed.
-/

namespace Confine

/-- What a subscriber finds when it looks for its next message. -/
inductive Received (α : Type) where
  | value (message : α)
  /-- All messages so far have been received. -/
  | empty
  /-- All messages have been received and no more will come. -/
  | closed
  /-- So many messages were lost. -/
  | lagged (missed : Nat)
deriving DecidableEq

/-- What to report at the end of a record. -/
def Received.atEnd (closed : Bool) : Received α := if closed then .closed else .empty

/-- A channel whose subscribers lose nothing. -/
structure Fanout (α : Type) where
  /-- Everything sent, the oldest first. -/
  sent : List α := []
  /-- Subscribers on the list, with those that left since the last message. -/
  listed : Nat := 0
  /-- Subscribers that have not left. -/
  present : Nat := 0

namespace Fanout

/-- Sends a message; subscribers that left are struck off the list. -/
def send (c : Fanout α) (message : α) : Fanout α :=
  { c with sent := c.sent ++ [message], listed := c.present }

/-- The position of a new subscriber: messages sent from now on. -/
def subscribe (c : Fanout α) : Fanout α × Nat :=
  ({ c with listed := c.listed + 1, present := c.present + 1 }, c.sent.length)

/-- A subscriber leaves. -/
def leave (c : Fanout α) : Fanout α := { c with present := c.present - 1 }

/-- The next message from a position on. -/
def receive (c : Fanout α) (closed : Bool) (position : Nat) : Nat × Received α :=
  match c.sent[position]? with
  | some message => (position + 1, .value message)
  | none => (position, .atEnd closed)

end Fanout

/-- The least power of two that is at least `n`. -/
def powerOfTwoAbove (n : Nat) : Nat := if n ≤ 1 then 1 else 1 <<< ((n - 1).log2 + 1)

/-- A channel that keeps a bounded number of messages. -/
structure Ring (α : Type) where
  /-- The number of messages kept. -/
  slots : Nat
  /-- Everything sent, the oldest first. -/
  sent : List α := []

namespace Ring

/-- The capacities that a ring can be made with. -/
def Accepts (capacity : Nat) : Prop := 1 ≤ capacity ∧ capacity ≤ 0x7fffffffffffffff

instance (capacity : Nat) : Decidable (Accepts capacity) := inferInstanceAs (Decidable (_ ∧ _))

/-- A ring for at least the given number of messages. -/
def ofCapacity (capacity : Nat) : Ring α := { slots := powerOfTwoAbove capacity }

/-- A ring for at least the given number of messages, where one can be made. -/
def ofCapacity? (capacity : Nat) : Option (Ring α) :=
  if Accepts capacity then some (ofCapacity capacity) else none

def send (c : Ring α) (message : α) : Ring α := { c with sent := c.sent ++ [message] }

/-- The position of a new subscriber: messages sent from now on. -/
def subscribe (c : Ring α) : Nat := c.sent.length

/-- The position of the oldest message kept. -/
def oldest (c : Ring α) : Nat := c.sent.length - c.slots

/-- The next message from a position on. A position before the oldest message moves there, and the
number of messages skipped is reported instead of a message. -/
def receive (c : Ring α) (closed : Bool) (position : Nat) : Nat × Received α :=
  if position < c.oldest then (c.oldest, .lagged (c.oldest - position))
  else
    match c.sent[position]? with
    | some message => (position + 1, .value message)
    | none => (position, .atEnd closed)

end Ring

end Confine
