import Confine.Host.Call

/-!
The parameters of a shell: its variables, its positional parameters and the special ones.
-/

namespace Confine.Host.Shell

structure Variable where
  name : String
  /-- A variable may be marked before it has a value. -/
  value : Option String
  exported : Bool := false
  readOnly : Bool := false
deriving DecidableEq

structure Store where
  /-- The name under which the shell reports errors. -/
  shellName : String
  positional : List String := []
  vars : List Variable := []
  status : Nat := 0
  pid : Nat := 0
  lastBackground : Option Nat := none
  /-- Letters of the options that are on. -/
  options : List Char := []
deriving DecidableEq

namespace Store

def find? (s : Store) (name : String) : Option Variable :=
  s.vars.find? fun v => v.name = name

/-- The value of a variable. -/
def value? (s : Store) (name : String) : Option String := (s.find? name).bind (·.value)

/-- Changes a variable, which is made if it is missing. -/
def update (s : Store) (name : String) (f : Variable → Variable) : Store :=
  if (s.find? name).isSome then
    { s with vars := s.vars.map fun v => if v.name = name then f v else v }
  else { s with vars := s.vars ++ [f { name, value := none }] }

def isReadOnly (s : Store) (name : String) : Bool := ((s.find? name).map (·.readOnly)).getD false

def set (s : Store) (name value : String) : Store :=
  s.update name fun v => { v with value := some value }

def unset (s : Store) (name : String) : Store :=
  { s with vars := s.vars.filter fun v => v.name ≠ name }

/-- Gives a variable the value and the marks that it had before. -/
def restore (s : Store) (name : String) (old : Option Variable) : Store :=
  match old with
  | some v => s.update name fun _ => v
  | none => s.unset name

def markExported (s : Store) (name : String) : Store := s.update name ({ · with exported := true })

def markReadOnly (s : Store) (name : String) : Store := s.update name ({ · with readOnly := true })

/-- The group that a variable is kept in, by the characters of its name. -/
def group (name : String) : Nat :=
  name.toList.foldl (fun n c => n + c.toNat) (16 * (name.toList.headD '\x00').toNat) % 39

/-- What a program started by the shell gets: group by group, in each the oldest first. -/
def bindings (s : Store) : Bindings :=
  let exported := s.vars.filterMap fun v =>
    if v.exported then v.value.map fun value => (v.name, value) else none
  exported.mergeSort fun a b => group a.1 ≤ group b.1

/-- The characters at which fields are split. -/
def separators (s : Store) : List Char :=
  match s.value? "IFS" with
  | some ifs => ifs.toList
  | none => " \t\n".toList

def hasOption (s : Store) (letter : Char) : Bool := s.options.contains letter

/-- The positional parameters in one text. -/
def joined (s : Store) : String :=
  let separator := match s.value? "IFS" with
    | none => " "
    | some ifs => String.ofList (ifs.toList.take 1)
  separator.intercalate s.positional

/-- The value of a parameter by its name. -/
def parameter? (s : Store) (name : String) : Option String :=
  match name with
  | "@" | "*" => if s.positional.isEmpty then none else some s.joined
  | "#" => some (toString s.positional.length)
  | "?" => some (toString s.status)
  | "-" => some (String.ofList s.options)
  | "$" => some (toString s.pid)
  | "!" => s.lastBackground.map toString
  | "0" => some s.shellName
  | _ =>
    match Octets.digits? name with
    | some n => if n = 0 then some s.shellName else s.positional[n - 1]?
    | none => s.value? name

/-- Where programs are looked for if the environment says nothing about it. -/
def standardPath : String :=
  "/usr/local/sbin:/usr/local/bin:/usr/sbin:/usr/bin:/sbin:/bin"

/-- The store of a shell that has just been started: only names that a variable can have are taken
over. -/
def ofBindings (shellName : String) (positional : List String) (env : Bindings) : Store :=
  let start : Store := { shellName, positional }
  let start := start.set "PATH" standardPath
  let store := env.foldl (fun s (name, value) =>
    if isName name.toList then (s.set name value).markExported name else s) start
  let standard := [("IFS", " \t\n"), ("OPTIND", "1"), ("PS1", "# "), ("PS2", "> "), ("PS4", "+ ")]
  standard.foldl (fun s (name, value) => s.set name value) store

end Store

end Confine.Host.Shell
