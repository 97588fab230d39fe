import Confine.Bytes
import Confine.Host.OsError
import Confine.SpawnOptions

/-!
The file tree of the host. A path is resolved from the left, one part after the other, and every
part before the last must be a directory.
-/

namespace Confine.Host

/-- The programs that the host can run. -/
inductive Program where
  | shell
  | cat
  | cut
  | dd
  | echo
  | env
  | exitWith (status : Nat)
  | grep
  | head
  | ls
  | mkdir
  | printenv
  | printf
  | pwd
  | rm
  | seq
  | sleep
  | sort
  | tail
  | tee
  | test
  | bracket
  | touch
  | tr
  | uniq
  | wc
  | yes
deriving DecidableEq

namespace Program

/-- The names under which programs are installed. -/
def installed : List (String × Program) :=
  [("sh", shell), ("dash", shell), ("cat", cat), ("cut", cut), ("dd", dd), ("echo", echo),
    ("env", env), ("true", exitWith 0), ("false", exitWith 1), ("grep", grep), ("head", head),
    ("ls", ls), ("mkdir", mkdir), ("rm", rm), ("touch", touch), ("printenv", printenv),
    ("printf", printf), ("pwd", pwd), ("seq", seq), ("sleep", sleep), ("sort", sort),
    ("tail", tail), ("tee", tee), ("test", test), ("[", bracket), ("tr", tr), ("uniq", uniq),
    ("wc", wc), ("yes", yes)]

end Program

inductive Node where
  | directory
  | file (content : Bytes)
  | program (p : Program)
  /-- Takes all and gives nothing. -/
  | null
  /-- Gives zeros without end. -/
  | zero
  /-- Gives zeros without end and takes nothing. -/
  | full
  /-- Another name of an open descriptor. -/
  | descriptor (fd : Nat)
  /-- The limits of the process that reads it. -/
  | limits
deriving DecidableEq

/-- A resolved path: its parts from the root on. -/
abbrev Location := List String

/-- The nodes by location; the root is always there. -/
structure Files where
  nodes : List (Location × Node)

namespace Files

def find? (fs : Files) (at_ : Location) : Option Node :=
  if at_ = [] then some .directory else List.lookup at_ fs.nodes

/-- Puts a node at a location, in place of one that is there. -/
def put (fs : Files) (at_ : Location) (node : Node) : Files :=
  if (fs.find? at_).isSome then
    ⟨fs.nodes.map fun (l, old) => if l = at_ then (l, node) else (l, old)⟩
  else ⟨fs.nodes ++ [(at_, node)]⟩

/-- Takes away a node and all below it. -/
def remove (fs : Files) (at_ : Location) : Files :=
  ⟨fs.nodes.filter fun (l, _) => !at_.isPrefixOf l⟩

/-- Fails unless the location is a directory. -/
def checkDirectory (fs : Files) (at_ : Location) : Except OsError Unit :=
  match fs.find? at_ with
  | some .directory => .ok ()
  | some _ => .error .notDirectory
  | none => .error .noEntry

/-- The greatest length of a name. -/
def nameMax : Nat := 255

/-- The length from which a path is too long. -/
def pathMax : Nat := 4096

/-- Goes down the parts of a path; an empty part stays where it is. -/
def walk (fs : Files) (here : Location) : List String → Except OsError Location
  | [] => .ok here
  | part :: rest => do
    if part.length > nameMax then .error .nameTooLong
    fs.checkDirectory here
    if part = "" || part = "." then fs.walk here rest
    else if part = ".." then fs.walk here.dropLast rest
    else fs.walk (here ++ [part]) rest

/-- The location that a path names from a directory. The last part need not exist. -/
def resolve (fs : Files) (dir : Location) (path : String) : Except OsError Location :=
  if path = "" then .error .noEntry
  else if path.length ≥ pathMax then .error .nameTooLong
  else
    let parts := (splitPath path.toList).map String.ofList
    if path.startsWith "/" then fs.walk [] parts else fs.walk dir parts

/-- The node that a path names. -/
def node (fs : Files) (dir : Location) (path : String) : Except OsError (Location × Node) := do
  let at_ ← fs.resolve dir path
  match fs.find? at_ with
  | some n => .ok (at_, n)
  | none => .error .noEntry

/-- The directory that a path names. -/
def directory (fs : Files) (dir : Location) (path : String) : Except OsError Location := do
  let at_ ← fs.resolve dir path
  fs.checkDirectory at_
  return at_

/-- The program that a path names. -/
def program (fs : Files) (dir : Location) (path : String) : Except OsError Program := do
  match ← fs.node dir path with
  | (_, .program p) => .ok p
  | _ => .error .accessDenied

/-- The names in a directory in ascending order. -/
def names (fs : Files) (dir : Location) : List String :=
  (fs.nodes.filterMap fun (l, _) =>
    if l ≠ [] && l.dropLast = dir then l.getLast? else none).mergeSort (· ≤ ·)

/-- A location as an absolute path. -/
def absolute (at_ : Location) : String :=
  if at_ = [] then "/" else String.join (at_.map ("/" ++ ·))

/-- The tree that every host has. -/
def standard : Files :=
  let bins : List Location := [["bin"], ["usr", "bin"]]
  let dirs : List Location :=
    [["usr"], ["usr", "local"], ["usr", "local", "bin"], ["usr", "sbin"], ["sbin"], ["dev"],
      ["proc"], ["proc", "self"], ["tmp"], ["etc"], ["home"], ["root"], ["var"], ["lib"]]
  ⟨(bins ++ dirs).map (·, .directory) ++
    [(["dev", "null"], .null), (["dev", "zero"], .zero),
      (["dev", "full"], .full), (["dev", "stdin"], .descriptor 0),
      (["dev", "stdout"], .descriptor 1), (["dev", "stderr"], .descriptor 2),
      (["proc", "self", "limits"], .limits)] ++
    bins.flatMap fun bin =>
      Program.installed.map fun (name, p) => (bin ++ [name], .program p)⟩

end Files

end Confine.Host
