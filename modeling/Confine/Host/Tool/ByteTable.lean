import Confine.Bytes
import Confine.Host.Format
import Confine.Host.Shell.Pattern

/-!
Replacement of single bytes: sets of bytes are written with ranges, named classes and escape
sequences, and the bytes of one set are replaced by those of another, deleted or squeezed.
-/

namespace Confine.Host

structure ByteTable where
  /-- The byte that takes the place of each byte. -/
  table : Array UInt8
  deleted : Array Bool
  /-- The bytes of which a run becomes a single one. -/
  squeezed : Array Bool

namespace ByteTable

/-- All bytes as characters, in ascending order. -/
def allBytes : List Char := (List.range 256).map Char.ofNat

/-- The characters from one to another. -/
def range (a b : Char) : List Char :=
  (List.range (b.toNat + 1 - a.toNat)).map fun i => Char.ofNat (a.toNat + i)

/-- A character of a set with its escape sequence resolved. -/
def unit? : List Char → Option (Char × List Char)
  | [] => none
  | '\\' :: cs =>
    match Format.escape? false cs with
    | some r => some r
    | none =>
      match cs with
      | c :: rest => some (c, rest)
      | [] => some ('\\', [])
  | c :: cs => some (c, cs)

/-- The members of a set in their order. -/
def members : Nat → List Char → List Char
  | 0, _ => []
  | n + 1, '[' :: ':' :: cs =>
    let name := cs.takeWhile Char.isAlpha
    match cs.drop name.length with
    | ':' :: ']' :: rest =>
      (allBytes.filter fun c =>
        (Shell.Pattern.classRanges (String.ofList name)).any fun (a, b) => a ≤ c && c ≤ b) ++
        members n rest
    | _ => '[' :: members n (':' :: cs)
  | n + 1, cs =>
    match unit? cs with
    | none => []
    | some (a, rest) =>
      match rest with
      | '-' :: more =>
        match unit? more with
        | some (b, rest) => range a b ++ members n rest
        | none => [a, '-']
      | _ => a :: members n rest

def setOf (s : String) : List Char := members (s.length + 1) s.toList

/-- The bytes that are not in a set. -/
def complement (cs : List Char) : List Char := allBytes.filter fun c => !cs.contains c

def marks (cs : List Char) : Array Bool := (allBytes.map fun c => cs.contains c).toArray

/-- The table that replaces the members of one set by those of another, whose last member stands
for all that are missing. -/
def tableOf (source target : List Char) : Array UInt8 :=
  let missing := source.length - target.length
  let pairs := source.zip (target ++ List.replicate missing (target.getLast?.getD '\x00'))
  (allBytes.map fun c =>
    UInt8.ofNat (((pairs.reverse.lookup c).getD c).toNat)).toArray

def unchanged : Array UInt8 := tableOf [] []

/-- Replaces bytes; the byte that was written last is known, so that runs can be squeezed. -/
def apply (t : ByteTable) (last : Option UInt8) (b : Bytes) : Bytes × Option UInt8 :=
  let (out, last) := b.foldl (fun (out, last) x =>
    if t.deleted.getD x.toNat false then (out, last)
    else
      let y := t.table.getD x.toNat x
      if last = some y && t.squeezed.getD y.toNat false then (out, last) else (y :: out, some y))
    ([], last)
  (out.reverse, last)

/-- The table that options and sets ask for. -/
def ofSets (complemented deletes squeezes : Bool) (first : String) (second : Option String) :
    ByteTable :=
  let source := if complemented then complement (setOf first) else setOf first
  let target := (second.map setOf).getD []
  let nothing := marks []
  if deletes then
    { table := unchanged
      deleted := marks source
      squeezed := if squeezes then marks target else nothing }
  else
    match second with
    | none => { table := unchanged, deleted := nothing, squeezed := marks source }
    | some _ =>
      { table := tableOf source target, deleted := nothing
        squeezed := if squeezes then marks target else nothing }

end ByteTable

end Confine.Host
