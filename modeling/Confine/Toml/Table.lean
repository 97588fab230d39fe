import Confine.Data.Basic

/-!
Tables as they grow while a TOML text is read. A table is defined once: by its header, as a whole in
a value, or part by part through dotted keys; a table that only contains a defined one is implicit
and can still get a header.
-/

namespace Confine.Toml

inductive Item where
  | value (d : Data)
  | table (implicit dotted : Bool) (members : List (String × Item))
  /-- The elements of a table list, each a table. -/
  | tables (elements : List Item)

abbrev Members := List (String × Item)

namespace Members

def find? (ms : Members) (key : String) : Option Item := List.lookup key ms

/-- Puts an item in the place of the one with that key, or at the end. -/
def put : Members → String → Item → Members
  | [], key, item => [(key, item)]
  | (k, i) :: ms, key, item =>
    if k = key then (k, item) :: ms else (k, i) :: put ms key item

/-- Changes the last element of a table list. -/
def changeLast (f : Members → Option Members) : List Item → Option (List Item)
  | [] => none
  | [.table implicit dotted ms] => (f ms).map fun ms => [.table implicit dotted ms]
  | [_] => none
  | i :: is => (changeLast f is).map (i :: ·)

/-- Changes the table at a path. Missing tables on the way are made, implicit ones; a table list is
entered at its last element. On a dotted path only implicit tables are entered. The change is told
whether its table comes from a dotted key. -/
def changeAt (dotted : Bool) (change : Bool → Members → Option Members) :
    List String → Bool → Members → Option Members
  | [], isDotted, ms => change isDotted ms
  | key :: path, _, ms =>
    match ms.find? key with
    | none => do
      let inner ← changeAt dotted change path dotted []
      some (ms.put key (.table true dotted inner))
    | some (.value _) => none
    | some (.table implicit isDotted inner) =>
      if dotted && !implicit then none
      else do
        let inner ← changeAt dotted change path isDotted inner
        some (ms.put key (.table implicit isDotted inner))
    | some (.tables elements) => do
      let elements ← changeLast (changeAt dotted change path false) elements
      some (ms.put key (.tables elements))

/-- Defines a key that is not there yet, inside the tables of a dotted key. -/
def define (path : List String) (key : String) (d : Data) (ms : Members) : Option Members :=
  changeAt true (fun isDotted ms =>
    if isDotted = path.isEmpty || (ms.find? key).isSome then none
    else some (ms.put key (.value d))) path false ms

/-- Opens the table of a header: a new one, or an implicit one. -/
def openTable (path : List String) (key : String) (ms : Members) : Option Members :=
  changeAt false (fun _ ms =>
    match ms.find? key with
    | none => some (ms.put key (.table false false []))
    | some (.table true false inner) => some (ms.put key (.table false false inner))
    | some _ => none) path false ms

/-- Adds an empty table to a table list. -/
def openElement (path : List String) (key : String) (ms : Members) : Option Members :=
  changeAt false (fun _ ms =>
    match ms.find? key with
    | none => some (ms.put key (.tables [.table false false []]))
    | some (.tables elements) =>
      some (ms.put key (.tables (elements ++ [.table false false []])))
    | some _ => none) path false ms

end Members

mutual

def Item.toData : Item → Data
  | .value d => d
  | .table _ _ ms => .object (membersData ms)
  | .tables elements => .list (elementsData elements)

def elementsData : List Item → List Data
  | [] => []
  | i :: is => i.toData :: elementsData is

def membersData : List (String × Item) → List (String × Data)
  | [] => []
  | m :: ms => memberData m :: membersData ms

def memberData : String × Item → String × Data
  | (key, i) => (key, i.toData)

end

/-- Builds a table from keys and values. -/
def Members.ofPairs (pairs : List (List String × Data)) : Option Members :=
  pairs.foldlM (fun ms (key, d) => do
    let last ← key.getLast?
    ms.define key.dropLast last d) []

end Confine.Toml
