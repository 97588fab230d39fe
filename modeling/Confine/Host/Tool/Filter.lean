import Confine.Host.Octets
import Confine.Host.Tool.ByteTable

/-!
What programs do with their input: filters take it in pieces and give output as soon as they can.
-/

namespace Confine.Host

/-- What is done with single lines. -/
structure LineRule where
  /-- The lines that are written for a line with the name of its input and its number; none for a
  line that is passed over. -/
  select : String → Nat → String → Option (List String)
  /-- What is written at the end of an input with so many selected lines. -/
  summary : String → Nat → List String := fun _ _ => []
  /-- Nothing is read after so many selected lines. -/
  bound : Option Nat := none
  /-- Whether lines are numbered and counted in each input by itself. -/
  apart : Bool := false
  /-- Whether the status tells that no line was selected. -/
  judged : Bool := false

/-- Where a filter of lines is in its input. -/
structure LinePlace where
  input : String := ""
  /-- The line that is not complete. -/
  begun : Bytes := []
  number : Nat := 0
  selected : Nat := 0
  /-- Whether any line was selected in an earlier input. -/
  earlier : Bool := false

inductive Filter where
  | copy
  /-- Only so many bytes or lines of each input. -/
  | limit (inBytes : Bool) (amount left : Nat) (titled : Bool) (inputs : Nat)
  | replace (t : ByteTable) (last : Option UInt8)
  | lines (rule : LineRule) (place : LinePlace)
  /-- Everything is read first. The inputs that are complete stand with their names. -/
  | whole (finish : List (String × Bytes) → Bytes) (inputs : List (String × Bytes))
    (current : List Bytes)
  /-- Writes the same over and over. -/
  | endless (text : Bytes)

namespace Filter

def newline : UInt8 := 10

/-- The lines of bytes: those that are complete, and the begun last one. -/
def splitLines (b : Bytes) : List Bytes × Bytes :=
  let (complete, current) := b.foldl (fun (complete, current) x =>
    if x = newline then (current.reverse :: complete, []) else (complete, x :: current))
    (([] : List Bytes), ([] : Bytes))
  (complete.reverse, current.reverse)

/-- The front of bytes up to so many line ends. -/
def takeLines : Nat → Bytes → Bytes
  | 0, _ => []
  | _, [] => []
  | n + 1, x :: xs => if x = newline then x :: takeLines n xs else x :: takeLines (n + 1) xs

/-- Whether nothing more is going to be written. -/
def isDone : Filter → Bool
  | limit _ _ left _ _ => left = 0
  | lines rule place =>
    match rule.bound with
    | some n => decide (n ≤ place.selected)
    | none => false
  | _ => false

/-- The rest of a limit after some input. -/
def spend (inBytes : Bool) (left : Nat) (b : Bytes) : Bytes × Nat :=
  if inBytes then (b.take left, left - b.length)
  else
    let kept := takeLines left b
    (kept, left - kept.count newline)

/-- Lines with their ends. -/
def written (ls : List String) : Bytes := ls.flatMap fun l => Octets.toBytes l ++ [newline]

/-- Applies a rule to lines. -/
def applyRule (rule : LineRule) (place : LinePlace) : List Bytes → Bytes × LinePlace
  | [] => ([], place)
  | line :: rest =>
    if rule.bound.any fun n => decide (n ≤ place.selected) then ([], place)
    else
      let place := { place with number := place.number + 1 }
      match rule.select place.input place.number (Octets.ofBytes line) with
      | none => applyRule rule place rest
      | some out =>
        let (more, place) := applyRule rule { place with selected := place.selected + 1 } rest
        (written out ++ more, place)

/-- Takes in the line that has no end. -/
def flush (rule : LineRule) (place : LinePlace) : Bytes × LinePlace :=
  if place.begun.isEmpty then ([], place)
  else applyRule rule { place with begun := [] } [place.begun]

/-- Takes in a piece of input. -/
def feed (f : Filter) (b : Bytes) : Filter × Bytes :=
  match f with
  | copy => (copy, b)
  | limit inBytes amount left titled inputs =>
    let (kept, left) := spend inBytes left b
    (limit inBytes amount left titled inputs, kept)
  | replace t last =>
    let (out, last) := t.apply last b
    (replace t last, out)
  | lines rule place =>
    let (complete, rest) := splitLines (place.begun ++ b)
    let (out, place) := applyRule rule { place with begun := rest } complete
    (lines rule place, out)
  | whole finish inputs current => (whole finish inputs (b :: current), [])
  | endless text => (endless text, [])

/-- Begins an input; with titles its name is written, and a blank line before all but the first. -/
def begin_ (f : Filter) (name : String) : Filter × Bytes :=
  match f with
  | limit inBytes amount _ titled inputs =>
    let title := if titled then
        (if inputs = 0 then "" else "\n") ++ "==> " ++ name ++ " <==\n"
      else ""
    (limit inBytes amount amount titled (inputs + 1), Octets.toBytes title)
  | lines rule place =>
    if rule.apart then
      (lines rule { input := name, earlier := place.earlier || place.selected > 0 }, [])
    else (lines rule { place with input := name }, [])
  | f => (f, [])

/-- Ends an input. -/
def end_ (f : Filter) (name : String) : Filter × Bytes :=
  match f with
  | whole finish inputs current =>
    (whole finish (inputs ++ [(name, current.reverse.flatten)]) [], [])
  | lines rule place =>
    if rule.apart then
      let (out, place) := flush rule place
      (lines rule place, out ++ written (rule.summary place.input place.selected))
    else (lines rule place, [])
  | f => (f, [])

/-- What is written after all input, and the status if the filter decides on it. -/
def finish : Filter → Bytes × Option Nat
  | lines rule place =>
    let (out, place) := flush rule place
    let any := place.earlier || place.selected > 0
    (out, if rule.judged then some (if any then 0 else 1) else none)
  | whole finish inputs _ => (finish inputs, none)
  | _ => ([], none)

end Filter

end Confine.Host
