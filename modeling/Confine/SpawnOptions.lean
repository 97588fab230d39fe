/-!
What to start: a program with arguments, an environment and a working directory. Directories are
compared by their components and environments by their bindings.
-/

namespace Confine

/-- Bindings of names to values in ascending order of the names, each name once. -/
abbrev Environment := List (String × String)

namespace Environment

/-- Binds a name, in place of an earlier binding. -/
def bind (name value : String) : Environment → Environment
  | [] => [(name, value)]
  | (n, v) :: rest =>
    if name = n then (name, value) :: rest
    else if name < n then (name, value) :: (n, v) :: rest
    else (n, v) :: bind name value rest

/-- Makes the bindings one after the other; the last one of a name counts. -/
def ofPairs (pairs : List (String × String)) : Environment :=
  pairs.foldl (fun env (name, value) => env.bind name value) []

end Environment

/-- The parts of a path between slashes. -/
def splitPath : List Char → List (List Char)
  | [] => [[]]
  | c :: r =>
    if c = '/' then [] :: splitPath r
    else
      match splitPath r with
      | part :: parts => (c :: part) :: parts
      | [] => [[c]]

/-- The components of a path: whether it is absolute, and its parts without the empty ones and
without `.`, which counts only at the start of a relative path. -/
def pathComponents (path : List Char) : Bool × List (List Char) :=
  let parts := splitPath path
  let rest := parts.tail.filter fun p => p ≠ [] && p ≠ ['.']
  match parts.head? with
  | some [] | none => (path ≠ [], rest)
  | some first => (false, first :: rest)

/-- Paths with the same components. -/
def samePath (a b : String) : Bool := pathComponents a.toList = pathComponents b.toList

structure SpawnOptions where
  program : String
  args : List String := []
  /-- Without an environment the child inherits that of the host. -/
  env : Option Environment := none
  /-- The directory before the path mapping. -/
  workDir : Option String := none
deriving DecidableEq

namespace SpawnOptions

/-- The program and its arguments. -/
def toList (o : SpawnOptions) : List String := o.program :: o.args

/-- Whether two optional directories are the same one. -/
def sameDir : Option String → Option String → Bool
  | none, none => true
  | some a, some b => samePath a b
  | _, _ => false

/-- Options that mean the same. -/
def same (a b : SpawnOptions) : Bool :=
  a.program = b.program && a.args = b.args && a.env = b.env && sameDir a.workDir b.workDir

end SpawnOptions

end Confine
