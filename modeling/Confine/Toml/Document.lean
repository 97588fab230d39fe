import Confine.Toml.Value

/-!
Reading a TOML text as a whole: lines that define keys or open tables.
-/

namespace Confine.Toml

/-- How TOML is read into typed values. -/
def format : DataFormat := { surplusItems := true, maxDepth := none }

/-- A line with something in it. -/
inductive Line where
  | assign (key : List String) (value : Data)
  /-- The header of a table. -/
  | table (key : List String)
  /-- The header of an element of a table list. -/
  | element (key : List String)

/-- Reads one line that is not blank. -/
def line? (s : Chars) : Option (Line × Chars) :=
  match s with
  | '[' :: '[' :: r => do
    let (key, r) ← key? r
    match r with
    | ']' :: ']' :: r => some (.element key, ← lineRest? r)
    | _ => none
  | '[' :: r => do
    let (key, r) ← key? r
    some (.table key, ← lineRest? (← expect? ']' r))
  | _ => do
    let (key, r) ← key? s
    let (d, r) ← value? (skipWhite (← expect? '=' r))
    some (.assign key d, ← lineRest? r)

/-- Reads all lines. -/
def lines : Nat → Chars → Option (List Line)
  | 0, _ => none
  | fuel + 1, s =>
    match skipWhite s with
    | [] => some []
    | '#' :: r => lineRest? ('#' :: r) >>= lines fuel
    | s =>
      match newline? s with
      | some r => lines fuel r
      | none => do
        let (line, r) ← line? s
        (← lines fuel r) |> (line :: ·) |> some

/-- The tables read so far, and the path of the table that is open. -/
structure Document where
  root : Members := []
  path : List String := []

namespace Document

/-- Takes in one line. -/
def add (doc : Document) : Line → Option Document
  | .assign key d => do
    let last ← key.getLast?
    let root ← Members.changeAt false (fun _ ms => ms.define key.dropLast last d) doc.path false
      doc.root
    some { doc with root }
  | .table key => do
    let root ← doc.root.openTable key.dropLast (← key.getLast?)
    some { root, path := key }
  | .element key => do
    let root ← doc.root.openElement key.dropLast (← key.getLast?)
    some { root, path := key }

end Document

/-- Drops a byte order mark at the front. -/
def dropMark : Chars → Chars
  | '\ufeff' :: r => r
  | s => s

/-- Reads a text as a table. -/
def read? (s : String) : Option Data := do
  let ls ← lines (s.toList.length + 1) (dropMark s.toList)
  let doc ← ls.foldlM Document.add {}
  some (.object (membersData doc.root))

end Confine.Toml
