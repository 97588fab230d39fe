import Confine.Host.Shell.Lexeme

/-!
Reading commands. A script is read one line at a time, where a line goes on as long as a compound
command or a quoted text in it is open.
-/

namespace Confine.Host.Shell

namespace Script

/-- Skips blanks and the ends of lines. -/
def skipLines : Nat → List Char → List Char
  | 0, cs => cs
  | n + 1, cs =>
    match skipBlanks cs with
    | '\n' :: rest => skipLines n rest
    | rest => rest

/-- Skips as many lines as there are. -/
def skipAllLines (cs : List Char) : List Char := skipLines (cs.length + 1) cs

/-- The fault of a text whose first token does not fit. -/
def misfit (expected : Option Token) (cs : List Char) : Fault :=
  let t := front cs
  ⟨.unexpected (t = .endOfFile) t.name (expected.map Token.name),
    (if t = .newline then cs.drop 1 else cs).count '\n'⟩

/-- Goes past a token that must stand here. -/
def expect (t : Token) (cs : List Char) : Fallible (List Char) :=
  if front cs = t then .ok (cs.drop t.length) else .error (misfit (some t) cs)

/-- The text of an input that is part of the script, up to its closing line, and the text behind
that line; the end of the script closes it too. -/
def hereText (stripTabs : Bool) (closing : List Char) : Nat → List Char → List Char × List Char
  | 0, cs => ([], cs)
  | _, [] => ([], [])
  | n + 1, cs =>
    let line := cs.takeWhile (· ≠ '\n')
    let line := if stripTabs then line.dropWhile (· = '\t') else line
    let rest := (cs.dropWhile (· ≠ '\n')).drop 1
    if line = closing then ([], rest)
    else
      let (body, rest) := hereText stripTabs closing n rest
      (line ++ '\n' :: body, rest)

/-- Reads the target of an input that is part of the script; its text is taken out of the lines
behind. -/
def here (stripTabs : Bool) (cs : List Char) : Fallible (Word × List Char) := do
  let (mark, rest) ← readWord (skipBlanks cs)
  let lineRest := rest.takeWhile (· ≠ '\n')
  let behind := (rest.dropWhile (· ≠ '\n')).drop 1
  let (body, behind) := hereText stripTabs mark.literal (behind.length + 1) behind
  let word ← if mark.anyQuoted then pure [Part.text body true]
    else (partsOf .whole body).map (·.1)
  return (word, lineRest ++ '\n' :: behind)

/-- Reads a redirection if there is one. -/
def redirect? (cs : List Char) : Fallible (Option (Redirect × List Char)) :=
  let number := redirectNumber cs
  match operator? (cs.drop number.length) with
  | none => .ok none
  | some (op, rest) =>
    match redirectKind? op with
    | none => .ok none
    | some (standard, kind) => do
      let fd := (Octets.digits? (String.ofList number)).getD standard
      if front (skipBlanks rest) matches .word | .reserved _ then
        let (target, after) ← if kind = .here then here (op = "<<-") rest
          else readWord (skipBlanks rest)
        return some (⟨fd, kind, target⟩, after)
      else throw (misfit none (skipBlanks rest))

/-- Reads the redirections that stand here. -/
def redirects : Nat → List Char → Fallible (List Redirect × List Char)
  | 0, cs => .ok ([], cs)
  | n + 1, cs => do
    match ← redirect? (skipBlanks cs) with
    | some (r, rest) =>
      let (rs, rest) ← redirects n rest
      return (r :: rs, rest)
    | none => return ([], skipBlanks cs)

/-- The assignment that a word makes when it stands in front of a command. -/
def assignment? : Word → Option (String × Word)
  | .text chars false :: parts =>
    let name := chars.takeWhile isNameChar
    match chars.drop name.length with
    | '=' :: value =>
      if isName name then
        some (String.ofList name, if value = [] then parts else .text value false :: parts)
      else none
    | _ => none
  | _ => none

/-- Reads the words up to the end of a command. -/
def wordList : Nat → List Char → Fallible (List Word × List Char)
  | 0, cs => .ok ([], cs)
  | n + 1, cs => do
    let cs := skipBlanks cs
    let (word, rest) ← readWord cs
    if word.isEmpty then return ([], cs)
    let (words, rest) ← wordList n rest
    return (word :: words, rest)

/-- Reads the patterns of one case. -/
def patterns : Nat → List Char → Fallible (List Word × List Char)
  | 0, cs => .error (misfit none cs)
  | n + 1, cs => do
    let (word, rest) ← readWord (skipBlanks cs)
    match skipBlanks rest with
    | '|' :: rest =>
      let (words, rest) ← patterns n rest
      return (word :: words, rest)
    | rest => return ([word], ← expect (.operator ")") rest)

/-- A command with redirections around it. -/
def wrap (c : Command) (rs : List Redirect) : Command := if rs.isEmpty then c else .group c rs

/-- One command after another. -/
def chain (first second : Command) : Command :=
  match second with
  | .nothing => first
  | _ => .sequence first second

/-- The number of the line at which a text starts, if so many line ends follow the first one. -/
def lineAt (lines : Nat) (cs : List Char) : Nat := lines + 1 - cs.count '\n'

/-- Where a list of commands stands. -/
inductive ListKind where
  /-- It is one line of a script. -/
  | line
  /-- It is a part of a command and has at least one command itself. -/
  | body
  /-- It may be empty, or some of it has been read. -/
  | more
deriving DecidableEq

namespace ListKind

/-- The kind of what follows the first command of a list. -/
def tail : ListKind → ListKind
  | line => line
  | body | more => more

end ListKind

mutual

/-- Reads commands up to a token that ends the list. -/
def commands (lines : Nat) : Nat → ListKind → List Char → Fallible (Command × List Char)
  | 0, _, cs => .error (misfit none cs)
  | n + 1, kind, cs => do
    let cs := if kind = .line then skipBlanks cs else skipAllLines cs
    match front cs with
    | .endOfFile => return (.nothing, [])
    | .newline => return (.nothing, cs.drop 1)
    | t =>
      if kind = .more && t.endsList then return (.nothing, cs)
      let (c, rest) ← andOr lines n cs
      let rest := skipBlanks rest
      match front rest with
      | .endOfFile => return (c, [])
      | .operator "&" =>
        let (more, rest) ← commands lines n kind.tail (rest.drop 1)
        return (chain (.background c) more, rest)
      | .operator ";" =>
        let (more, rest) ← commands lines n kind.tail (rest.drop 1)
        return (chain c more, rest)
      | .newline =>
        let (more, rest) ← commands lines n kind.tail rest
        return (chain c more, rest)
      | _ => if kind = .line then throw (misfit none rest) else return (c, rest)

def andOr (lines : Nat) : Nat → List Char → Fallible (Command × List Char)
  | 0, cs => .error (misfit none cs)
  | n + 1, cs => do
    let (c, rest) ← pipeline lines n cs
    andOrTail lines n c rest

/-- Reads the rest of a list behind a first command. -/
def andOrTail (lines : Nat) : Nat → Command → List Char → Fallible (Command × List Char)
  | 0, _, cs => .error (misfit none cs)
  | n + 1, left, cs =>
    let cs := skipBlanks cs
    match front cs with
    | .operator "&&" => do
      let (right, rest) ← pipeline lines n (skipAllLines (cs.drop 2))
      andOrTail lines n (.both left right) rest
    | .operator "||" => do
      let (right, rest) ← pipeline lines n (skipAllLines (cs.drop 2))
      andOrTail lines n (.either left right) rest
    | _ => .ok (left, cs)

def pipeline (lines : Nat) : Nat → List Char → Fallible (Command × List Char)
  | 0, cs => .error (misfit none cs)
  | n + 1, cs =>
    if front cs = .reserved "!" then do
      let (c, rest) ← pipe lines n (skipBlanks (cs.drop 1))
      return (.negate c, rest)
    else pipe lines n cs

def pipe (lines : Nat) : Nat → List Char → Fallible (Command × List Char)
  | 0, cs => .error (misfit none cs)
  | n + 1, cs => do
    let (c, rest) ← command lines n cs
    let rest := skipBlanks rest
    if front rest = .operator "|" then
      let (right, rest) ← pipe lines n (skipAllLines (rest.drop 1))
      return (.pipe c right, rest)
    return (c, rest)

def command (lines : Nat) : Nat → List Char → Fallible (Command × List Char)
  | 0, cs => .error (misfit none cs)
  | n + 1, cs => do
    let t := front cs
    let behind := cs.drop t.length
    let around (read : Fallible (Command × List Char)) : Fallible (Command × List Char) := do
      let (c, rest) ← read
      let (rs, rest) ← redirects n rest
      return (wrap c rs, rest)
    match t with
    | .operator "(" =>
      let (body, rest) ← commands lines n .body behind
      let rest ← expect (.operator ")") rest
      let (rs, rest) ← redirects n rest
      return (.subshell body rs, rest)
    | .reserved "\x7b" => around do
      let (body, rest) ← commands lines n .body behind
      return (.group body [], ← expect (.reserved "\x7d") rest)
    | .reserved "if" => around (branch lines n behind)
    | .reserved "while" => around (loop lines n false behind)
    | .reserved "until" => around (loop lines n true behind)
    | .reserved "for" => around (forEach lines n behind)
    | .reserved "case" => around (choose lines n behind)
    | .word | .redirection => simple lines n { line := lineAt lines cs } cs
    | _ => throw (misfit none cs)

/-- Reads a conditional behind its first word. -/
def branch (lines : Nat) : Nat → List Char → Fallible (Command × List Char)
  | 0, cs => .error (misfit none cs)
  | n + 1, cs => do
    let (test, rest) ← commands lines n .body cs
    let rest ← expect (.reserved "then") rest
    let (yes, rest) ← commands lines n .body rest
    match front rest with
    | .reserved "elif" =>
      let (no, rest) ← branch lines n (rest.drop 4)
      return (.branch test yes no, rest)
    | .reserved "else" =>
      let (no, rest) ← commands lines n .body (rest.drop 4)
      return (.branch test yes no, ← expect (.reserved "fi") rest)
    | _ => return (.branch test yes .nothing, ← expect (.reserved "fi") rest)

/-- Reads a loop behind its first word. -/
def loop (lines : Nat) : Nat → Bool → List Char → Fallible (Command × List Char)
  | 0, _, cs => .error (misfit none cs)
  | n + 1, inverted, cs => do
    let (test, rest) ← commands lines n .body cs
    let rest ← expect (.reserved "do") rest
    let (body, rest) ← commands lines n .body rest
    return (.loop inverted test body, ← expect (.reserved "done") rest)

/-- Reads a loop over words behind its first word. -/
def forEach (lines : Nat) : Nat → List Char → Fallible (Command × List Char)
  | 0, cs => .error (misfit none cs)
  | n + 1, cs => do
    let (variable_, rest) ← readWord (skipBlanks cs)
    let name := variable_.literal
    if variable_.anyQuoted || !isName name then throw ⟨.badForVariable, rest.count '\n'⟩
    let rest := skipAllLines rest
    let (words, rest) ← match front rest with
      | .reserved "in" => do
        let (words, rest) ← wordList n (rest.drop 2)
        match front rest with
        | .newline | .operator ";" => pure (some words, rest.drop 1)
        | _ => throw (misfit none rest)
      | .operator ";" => pure (none, rest.drop 1)
      | _ => pure (none, rest)
    let rest ← expect (.reserved "do") (skipAllLines rest)
    let (body, rest) ← commands lines n .body rest
    let rest ← expect (.reserved "done") rest
    return (.forEach (String.ofList name) words body (lineAt lines cs), rest)

/-- Reads a choice behind its first word. -/
def choose (lines : Nat) : Nat → List Char → Fallible (Command × List Char)
  | 0, cs => .error (misfit none cs)
  | n + 1, cs => do
    let (subject, rest) ← readWord (skipBlanks cs)
    if subject.isEmpty then throw (misfit (some .word) rest)
    let rest ← expect (.reserved "in") (skipAllLines rest)
    let (cases, rest) ← choices lines n rest
    return (.choose subject cases (lineAt lines cs), rest)

/-- Reads the cases of a choice up to its last word. -/
def choices (lines : Nat) : Nat → List Char → Fallible (List (List Word × Command) × List Char)
  | 0, cs => .error (misfit none cs)
  | n + 1, cs => do
    let cs := skipAllLines cs
    if front cs = .reserved "esac" then return ([], cs.drop 4)
    let (ps, rest) ← patterns (cs.length + 1) (if cs.head? = some '(' then cs.drop 1 else cs)
    let (body, rest) ← commands lines n .more rest
    if front rest = .reserved "esac" then return ([(ps, body)], rest.drop 4)
    let rest ← expect (.operator ";;") rest
    let (more, rest) ← choices lines n rest
    return ((ps, body) :: more, rest)

/-- Reads a simple command, or the definition of a function. -/
def simple (lines : Nat) : Nat → SimpleCommand → List Char → Fallible (Command × List Char)
  | 0, _, cs => .error (misfit none cs)
  | n + 1, c, cs => do
    let cs := skipBlanks cs
    match ← redirect? cs with
    | some (r, rest) => simple lines n { c with redirects := c.redirects ++ [r] } rest
    | none =>
      let (word, rest) ← readWord cs
      if word.isEmpty then
        match c.words with
        | [name] =>
          if front cs = .operator "(" && c.assignments.isEmpty && c.redirects.isEmpty then
            let rest ← expect (.operator ")") (skipBlanks (cs.drop 1))
            let text := name.literal
            if name.anyQuoted || !isName text ||
                specialBuiltins.contains (String.ofList text) then
              throw ⟨.badFunctionName, rest.count '\n'⟩
            let (body, rest) ← command lines n (skipAllLines rest)
            return (.define (String.ofList text) body, rest)
          return (.simple c, cs)
        | _ => return (.simple c, cs)
      match if c.words.isEmpty then assignment? word else none with
      | some a => simple lines n { c with assignments := c.assignments ++ [a] } rest
      | none => simple lines n { c with words := c.words ++ [word] } rest

end

/-- Reads the next line of a script: the commands and the text behind them. -/
def line (lines : Nat) (cs : List Char) : Fallible (Command × List Char) :=
  commands lines (4 * cs.length + 16) .line cs

end Script

end Confine.Host.Shell
