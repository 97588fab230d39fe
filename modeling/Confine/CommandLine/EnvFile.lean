import Confine.Bytes
import Confine.Text.Alphanumeric
import Confine.Text.Blank

/-!
Files of variables: a line binds a name to a value, which may be quoted, go over several lines and
refer to other variables. A variable that is set keeps its value, and the first line that is not
well-formed ends the reading.
-/

namespace Confine

/-- The variables of a process in the order in which they were set. -/
abbrev Variables := List (String × String)

namespace EnvFile

/-- What a scan for the end of a value is in the middle of. -/
inductive Scan where
  | complete
  | escape
  | strong
  | strongEscape
  | weak
  | weakEscape
  | blank
deriving DecidableEq

namespace Scan

/-- What follows a character outside of quotes. -/
def opened (c : Char) : Scan :=
  if c = '\\' then .escape
  else if c = '\x22' then .weak
  else if c = '\'' then .strong
  else .complete

def next (s : Scan) (c : Char) : Scan :=
  match s with
  | .blank => opened c
  | .escape => .complete
  | .complete => if Text.isBlank c && c ≠ '\n' && c ≠ '\r' then .blank else opened c
  | .weak => if c = '\\' then .weakEscape else if c = '\x22' then .complete else .weak
  | .weakEscape => .weak
  | .strong => if c = '\\' then .strongEscape else if c = '\'' then .complete else .strong
  | .strongEscape => .strong

end Scan

/-- Scans a line; the second part is the text in front of a comment, if there is one. -/
def scan (s : Scan) : List Char → Scan × Option (List Char)
  | [] => (s, none)
  | c :: cs =>
    if s = .blank && c = '#' then (.complete, some [])
    else
      let (s, front) := scan (s.next c) cs
      (s, front.map (c :: ·))

/-- The lines of a text, each with its end. -/
def physicalLines : List Char → List (List Char)
  | [] => []
  | c :: cs =>
    if c = '\n' then [c] :: physicalLines cs
    else
      match physicalLines cs with
      | l :: ls => (c :: l) :: ls
      | [] => [[c]]

/-- A line without its end. -/
def withoutEnd (line : List Char) : List Char :=
  match line.reverse with
  | '\n' :: '\r' :: rest => rest.reverse
  | '\n' :: rest => rest.reverse
  | _ => line

/-- Joins lines whose quotes go on. Nothing stands for a text that ends inside a quotation. -/
def logicalLines (begun : List Char) (s : Scan) : List (List Char) → List (Option (List Char))
  | [] => if s = .complete then [] else [none]
  | line :: rest =>
    let whole := begun ++ line
    if (whole.dropWhile Text.isBlank).head? = some '#' then
      some [] :: logicalLines [] .complete rest
    else
      match scan s line with
      | (_, some front) => some (begun ++ front) :: logicalLines [] .complete rest
      | (.complete, none) => some (withoutEnd whole) :: logicalLines [] .complete rest
      | (s, none) => logicalLines whole s rest

/-- Values of names that the file itself gave so far. -/
abbrev Given := List (String × String)

/-- What a reference stands for: a variable that is set, or else what the file gave. -/
def substitute (vars : Variables) (given : Given) (name : List Char) : List Char :=
  let name := String.ofList name
  (((vars.lookup name).or (given.lookup name)).getD "").toList

/-- What the reading of a value is in the middle of. -/
inductive Reading where
  | plain
  | weak
  | strong
  /-- Behind a backslash; the flag tells whether inside double quotes. -/
  | escape (inWeak : Bool)
  /-- In the name of a reference, with or without braces. -/
  | reference (inWeak braced : Bool) (name : List Char)
  /-- Behind the value, where only blanks and a comment may stand. -/
  | behind

/-- The reading that goes on inside or outside of double quotes. -/
def backTo (inWeak : Bool) : Reading := if inWeak then .weak else .plain

/-- Reads a value; none if it is not well-formed. -/
def value? (vars : Variables) (given : Given) : Reading → List Char → Option (List Char)
  | .plain, [] | .behind, [] => some []
  | .escape false, [] => some []
  | .reference false false name, [] => some (substitute vars given name.reverse)
  | _, [] => none
  | .behind, c :: cs =>
    if c = ' ' || c = '\t' then value? vars given .behind cs
    else if c = '#' then some []
    else none
  | .escape inWeak, c :: cs =>
    if ['\\', '\'', '\x22', '$', ' '].contains c then
      (value? vars given (backTo inWeak) cs).map (c :: ·)
    else if c = 'n' then (value? vars given (backTo inWeak) cs).map ('\n' :: ·)
    else none
  | .strong, c :: cs =>
    if c = '\'' then value? vars given .plain cs else (value? vars given .strong cs).map (c :: ·)
  | .reference inWeak braced name, c :: cs =>
    if Text.isAlphanumeric c then value? vars given (.reference inWeak braced (c :: name)) cs
    else
      let meaning := substitute vars given name.reverse
      if braced then
        if c = '\x7d' then (value? vars given (backTo inWeak) cs).map (meaning ++ ·)
        else value? vars given (.reference inWeak true (c :: name)) cs
      else if c = '\x7b' && name.isEmpty then value? vars given (.reference inWeak true []) cs
      else if c = '$' then (value? vars given (.reference inWeak false []) cs).map (meaning ++ ·)
      else (value? vars given (backTo inWeak) cs).map (meaning ++ c :: ·)
  | .weak, c :: cs =>
    if c = '$' then value? vars given (.reference true false []) cs
    else if c = '\x22' then value? vars given .plain cs
    else if c = '\\' then value? vars given (.escape true) cs
    else (value? vars given .weak cs).map (c :: ·)
  | .plain, c :: cs =>
    if c = '$' then value? vars given (.reference false false []) cs
    else if c = '\'' then value? vars given .strong cs
    else if c = '\x22' then value? vars given .weak cs
    else if c = '\\' then value? vars given (.escape false) cs
    else if c = ' ' || c = '\t' then value? vars given .behind cs
    else (value? vars given .plain cs).map (c :: ·)

/-- A name at the front of a text, and the text behind it without blanks. -/
def name? (cs : List Char) : Option (String × List Char) :=
  match cs with
  | c :: _ =>
    if c.isAlpha || c = '_' then
      let name := cs.takeWhile fun c => c.isAlphanum || c = '_' || c = '.'
      some (String.ofList name, (cs.drop name.length).dropWhile Text.isBlank)
    else none
  | [] => none

/-- The text behind a sign of equality and the blanks after it. -/
def afterEquals? : List Char → Option (List Char)
  | '=' :: cs => some (cs.dropWhile Text.isBlank)
  | _ => none

/-- What a line means. -/
inductive Line where
  | nothing
  | binding (name value : String)
  | malformed
deriving DecidableEq

/-- Reads the name in front of a sign of equality; the word `export` may stand before it, or be the
name itself. -/
def target? (cs : List Char) : Option (String × List Char) :=
  (name? cs).bind fun (name, rest) =>
    match afterEquals? rest with
    | some behind => some (name, behind)
    | none =>
      if name = "export" then
        (name? rest).bind fun (name, rest) => (afterEquals? rest).map (name, ·)
      else none

/-- Reads a line. -/
def line (vars : Variables) (given : Given) (cs : List Char) : Line :=
  let cs := (Text.trimEnd cs).dropWhile Text.isBlank
  if cs = [] || cs.head? = some '#' then .nothing
  else
    match target? cs with
    | none => .malformed
    | some (name, text) =>
      if text = [] || text.head? = some '#' then .binding name ""
      else
        match value? vars given .plain text with
        | some v => .binding name (String.ofList v)
        | none => .malformed

/-- Sets the variables that lines give. -/
def load (vars : Variables) (given : Given) : List (Option (List Char)) → Variables
  | [] | none :: _ => vars
  | some cs :: rest =>
    match line vars given cs with
    | .nothing => load vars given rest
    | .malformed => vars
    | .binding name value =>
      let vars := if (vars.lookup name).isSome then vars else vars ++ [(name, value)]
      load vars ((name, value) :: given) rest

/-- The lines of bytes, each with its end. -/
def byteLines (b : Bytes) : List Bytes :=
  b.foldr (fun x lines =>
    match lines with
    | line :: rest => if x = 10 then [x] :: line :: rest else (x :: line) :: rest
    | [] => [[x]]) []

/-- The lines in front of the first one that is not text. -/
def textLines (b : Bytes) : List Char :=
  (((byteLines b).map Bytes.toText?).takeWhile Option.isSome).flatMap fun t => (t.getD "").toList

/-- A text without a byte order mark. -/
def withoutMark : List Char → List Char
  | '\uFEFF' :: cs => cs
  | cs => cs

/-- Sets the variables that a file gives. -/
def apply (vars : Variables) (content : Bytes) : Variables :=
  load vars [] (logicalLines [] .complete (physicalLines (withoutMark (textLines content))))

end EnvFile

end Confine
