import Confine.Host.Shell.Arithmetic
import Confine.Host.Shell.Lexeme
import Confine.Host.Shell.Pattern
import Confine.Host.Shell.Store

/-!
Expansion of words. What is put in for an unquoted parameter or command is split into fields; what
is quoted stays together. Command substitutions are filled in beforehand.
-/

namespace Confine.Host.Shell

/-- Where a character of an expanded word comes from. -/
inductive Origin where
  | literal
  | quoted
  /-- Put in without quotes, so that fields are split at it. -/
  | inserted
deriving DecidableEq

inductive Atom where
  | char (c : Char) (origin : Origin)
  /-- A quoted text that may be empty: there is a field here. -/
  | present
  /-- The border between two positional parameters. -/
  | border
  /-- No positional parameters: there is no field here unless there is something else. -/
  | vanished
deriving DecidableEq

/-- An expansion that fails ends the shell with a message. -/
structure ExpansionError where
  message : String

namespace Expansion

/-- Whether a parameter has no value, or with `nonempty` an empty one. -/
def missing (s : Store) (name : String) (nonempty : Bool) : Bool :=
  match s.parameter? name with
  | some v => nonempty && v = ""
  | none => true

/-- Whether an expansion looks at its word. -/
def usesWord (s : Store) (name : String) (op : ParameterOp) (nonempty : Bool) : Bool :=
  match op with
  | .orElse | .orAssign | .orFail => missing s name nonempty
  | .ifSet => !missing s name nonempty
  | .trim .. => true

mutual

/-- The first command substitution that a part is going to use. -/
def partCommand? (s : Store) : Part → Option (List Char)
  | .command source _ => some source
  | .arithmetic word _ => firstCommand? s word
  | .operate name op nonempty word _ =>
    if usesWord s name op nonempty then firstCommand? s word else none
  | _ => none

/-- The first command substitution that a word is going to use. -/
def firstCommand? (s : Store) : List Part → Option (List Char)
  | [] => none
  | part :: rest =>
    match partCommand? s part with
    | some source => some source
    | none => firstCommand? s rest

end

mutual

/-- Fills in the first command substitution of a part. -/
def fillPart? (s : Store) (output : List Char) : Part → Option Part
  | .command _ quoted => some (.result output quoted)
  | .arithmetic word quoted => (fill? s output word).map (.arithmetic · quoted)
  | .operate name op nonempty word quoted =>
    if usesWord s name op nonempty then
      (fill? s output word).map (.operate name op nonempty · quoted)
    else none
  | _ => none

/-- Fills in the first command substitution of a word. -/
def fill? (s : Store) (output : List Char) : List Part → Option Word
  | [] => none
  | part :: rest =>
    match fillPart? s output part with
    | some part => some (part :: rest)
    | none => (fill? s output rest).map (part :: ·)

end

/-- Text that is put in. -/
def insert (chars : List Char) (quoted : Bool) : List Atom :=
  if quoted then .present :: chars.map (.char · .quoted) else chars.map (.char · .inserted)

/-- The characters of atoms without any splitting. -/
def textOf (atoms : List Atom) : List Char :=
  atoms.filterMap fun
    | .char c _ => some c
    | .border => some ' '
    | _ => none

/-- The characters of atoms, marked by whether they may have a meaning in a pattern. -/
def markedOf (atoms : List Atom) : List Marked :=
  atoms.filterMap fun
    | .char c origin => some (c, origin ≠ .quoted)
    | .border => some (' ', false)
    | _ => none

/-- All positional parameters, each one a field of its own. -/
def positionalAtoms (s : Store) (quoted : Bool) : List Atom :=
  if s.positional.isEmpty then [.vanished]
  else [Atom.border].intercalate (s.positional.map fun p => insert p.toList quoted)

/-- The atoms of a plain parameter. -/
def parameterAtoms (s : Store) (name : String) (quoted : Bool) :
    Except ExpansionError (List Atom) :=
  if name = "@" || (name = "*" && !quoted) then .ok (positionalAtoms s quoted)
  else
    match s.parameter? name with
    | some v => .ok (insert v.toList quoted)
    | none =>
      if s.hasOption 'u' && name ≠ "*" then .error ⟨name ++ ": parameter not set"⟩
      else .ok (insert [] quoted)

/-- The length of a parameter. -/
def lengthOf (s : Store) (name : String) : Nat := ((s.parameter? name).getD "").length

/-- The message of an expansion that must not be without a value. -/
def absence (name : String) (nonempty : Bool) (text : List Char) : ExpansionError :=
  let reason := if text = [] then
      if nonempty then "parameter not set or null" else "parameter not set"
    else String.ofList text
  ⟨name ++ ": " ++ reason⟩

/-- Evaluates an arithmetic expression and makes its assignments. -/
def compute (s : Store) (text : List Char) : Except ExpansionError (Int × Store) :=
  let result := do
    let a ← Arithmetic.parse text
    a.eval (fun name => (s.parameter? name).getD "") []
  match result with
  | .ok (n, assigned) =>
    .ok (n, assigned.reverse.foldl (fun s (name, v) => s.set name (toString v)) s)
  | .error fault => .error ⟨fault.message (String.ofList text)⟩

/-- The word of an unquoted expansion is split like what it stands in for. -/
def asInserted (quoted : Bool) (atoms : List Atom) : List Atom :=
  if quoted then .present :: atoms
  else atoms.map fun
    | .char c .literal => .char c .inserted
    | a => a

mutual

def partAtoms (s : Store) : Part → Except ExpansionError (List Atom × Store)
  | .text chars quoted =>
    .ok (if quoted then .present :: chars.map (.char · .quoted)
      else chars.map (.char · .literal), s)
  | .parameter name quoted => do return (← parameterAtoms s name quoted, s)
  | .length name quoted => do
    let _ ← parameterAtoms s name quoted
    return (insert (toString (lengthOf s name)).toList quoted, s)
  | .operate name op nonempty word quoted =>
    let value := ((s.parameter? name).getD "").toList
    match op with
    | .orElse =>
      if missing s name nonempty then do
        let (atoms, s) ← wordAtoms s word
        return (asInserted quoted atoms, s)
      else do return (← parameterAtoms s name quoted, s)
    | .ifSet =>
      if missing s name nonempty then .ok (insert [] quoted, s)
      else do
        let (atoms, s) ← wordAtoms s word
        return (asInserted quoted atoms, s)
    | .orAssign =>
      if missing s name nonempty then do
        let (atoms, s) ← wordAtoms s word
        let text := textOf atoms
        return (insert text quoted, s.set name (String.ofList text))
      else .ok (insert value quoted, s)
    | .orFail =>
      if missing s name nonempty then do
        let (atoms, _) ← wordAtoms s word
        throw (absence name nonempty (textOf atoms))
      else do return (← parameterAtoms s name quoted, s)
    | .trim back longest => do
      let (atoms, s) ← wordAtoms s word
      let pattern := Pattern.ofMarked (markedOf atoms)
      let trimmed := if back then Pattern.trimBack pattern longest value
        else Pattern.trimFront pattern longest value
      return (insert trimmed quoted, s)
  | .arithmetic word quoted => do
    let (atoms, s) ← wordAtoms s word
    let (n, s) ← compute s (textOf atoms)
    return (insert (toString n).toList quoted, s)
  | .command _ quoted => .ok (insert [] quoted, s)
  | .result chars quoted => .ok (insert chars quoted, s)

/-- The atoms of a word, with the assignments made on the way. -/
def wordAtoms (s : Store) : List Part → Except ExpansionError (List Atom × Store)
  | [] => .ok ([], s)
  | part :: rest => do
    let (atoms, s) ← partAtoms s part
    let (more, s) ← wordAtoms s rest
    return (atoms ++ more, s)

end

/-- The home directory of a user; without a name, that of the shell's own. -/
def home? (s : Store) (user : List Char) : Option String :=
  if user = [] then s.value? "HOME" else List.lookup (String.ofList user) [("root", "/root")]

/-- Puts in the home directory that a tilde at the front of a text stands for. The name of a user
goes up to a slash, or in an assignment to a colon. -/
def tildeText (s : Store) (assigned : Bool) (more : Bool) (chars : List Char) : Word :=
  match chars with
  | '~' :: cs =>
    let stops (c : Char) : Bool := c = '/' || (assigned && c = ':')
    let user := cs.takeWhile fun c => !stops c
    let rest := cs.drop user.length
    if rest.isEmpty && more then [.text chars false]
    else
      match home? s user with
      | some dir => [.text dir.toList true, .text rest false]
      | none => [.text chars false]
  | _ => [.text chars false]

/-- A word in which a tilde at its front is replaced. -/
def withHome (s : Store) (assigned : Bool) : Word → Word
  | .text chars false :: parts => tildeText s assigned (!parts.isEmpty) chars ++ parts
  | parts => parts

/-- Fields in the making. -/
structure Splitter where
  /-- The fields so far, the newest first. -/
  done : List (List Marked) := []
  /-- The current field, the newest character first. -/
  current : List Marked := []
  /-- Whether there is a current field. -/
  started : Bool := false
  /-- Whether the last field was ended by a blank only, which belongs to a separator behind it. -/
  afterBlank : Bool := false

namespace Splitter

def finish (t : Splitter) (afterBlank : Bool) : Splitter :=
  if t.started then { done := t.current.reverse :: t.done, afterBlank } else { t with afterBlank }

def add (t : Splitter) (m : Marked) : Splitter :=
  { t with current := m :: t.current, started := true, afterBlank := false }

/-- Takes in one atom. A blank separator ends a field that there is; any other one ends a field
even if it is empty. -/
def step (separators : List Char) (t : Splitter) : Atom → Splitter
  | .present => { t with started := true }
  | .vanished => t
  | .border => t.finish false
  | .char c .inserted =>
    if !separators.contains c then t.add (c, true)
    else if [' ', '\t', '\n'].contains c then
      if t.started then t.finish true else t
    else if t.started then t.finish false
    else if t.afterBlank then { t with afterBlank := false }
    else { t with done := [] :: t.done }
  | .char c origin => t.add (c, origin ≠ .quoted)

end Splitter

/-- The fields of an expanded word. -/
def fields (separators : List Char) (atoms : List Atom) : List (List Marked) :=
  let bare := atoms.all fun a => a = .present || a = .vanished
  if bare && atoms.contains .vanished then []
  else
    ((atoms.foldl (Splitter.step separators) {}).finish false).done.reverse

/-- The fields of several words. -/
def wordsFields (s : Store) : List Word → Except ExpansionError (List (List Marked) × Store)
  | [] => .ok ([], s)
  | word :: rest => do
    let (atoms, s) ← wordAtoms s (withHome s false word)
    let (more, s) ← wordsFields s rest
    return (fields s.separators atoms ++ more, s)

/-- The text of a word that is not split. -/
def wordText (s : Store) (word : Word) : Except ExpansionError (String × Store) := do
  let (atoms, s) ← wordAtoms s (withHome s true word)
  return (String.ofList (textOf atoms), s)

/-- The pattern that a word stands for. -/
def wordPattern (s : Store) (word : Word) : Except ExpansionError (List Pattern × Store) := do
  let (atoms, s) ← wordAtoms s word
  return (Pattern.ofMarked (markedOf atoms), s)

end Expansion

end Confine.Host.Shell
