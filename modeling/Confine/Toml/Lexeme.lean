import Confine.Text.Decimal

/-!
The parts of a TOML text below values: white space, comments, line ends, strings and keys. Each
reader takes what it reads off the front of the text.
-/

namespace Confine.Toml

abbrev Chars := List Char

/-- White space within a line. -/
def isWhite (c : Char) : Bool := c = ' ' || c = '\t'

def skipWhite (s : Chars) : Chars := s.dropWhile isWhite

/-- A character that may stand in comments and strings: no control but the tab. -/
def isPlain (c : Char) : Bool := c = '\t' || (0x20 ≤ c.toNat && c.toNat ≠ 0x7F)

/-- Reads a line end. -/
def newline? : Chars → Option Chars
  | '\n' :: r => some r
  | '\r' :: '\n' :: r => some r
  | _ => none

/-- Reads a comment, if there is one, up to the end of its line. -/
def skipComment : Chars → Chars
  | '#' :: r => r.dropWhile isPlain
  | s => s

/-- Reads to the end of a line that has nothing more than white space and a comment. -/
def lineRest? (s : Chars) : Option Chars :=
  match skipComment (skipWhite s) with
  | [] => some []
  | s => newline? s

/-- Skips white space, comments and line ends. -/
def skipBlank : Nat → Chars → Chars
  | 0, s => s
  | fuel + 1, s =>
    match skipWhite s with
    | '#' :: r => skipBlank fuel (r.dropWhile isPlain)
    | s =>
      match newline? s with
      | some r => skipBlank fuel r
      | none => s

def skipBlanks (s : Chars) : Chars := skipBlank s.length s

/-- The value of a digit in a base, in either case. -/
def digitIn? (base : Nat) (c : Char) : Option Nat :=
  let n :=
    if '0' ≤ c ∧ c ≤ '9' then c.toNat - 48
    else if 'a' ≤ c ∧ c ≤ 'f' then c.toNat - 87
    else if 'A' ≤ c ∧ c ≤ 'F' then c.toNat - 55
    else base
  if n < base then some n else none

/-- Reads a number of exactly so many hexadecimal digits. -/
def hexNumber? : Nat → Nat → Chars → Option (Nat × Chars)
  | 0, n, s => some (n, s)
  | count + 1, n, c :: r => do hexNumber? count (16 * n + (← digitIn? 16 c)) r
  | _, _, [] => none

/-- Reads a character given by its number. -/
def numbered? (count : Nat) (s : Chars) : Option (Char × Chars) := do
  let (n, r) ← hexNumber? count 0 s
  if n.isValidChar then some (Char.ofNat n, r) else none

/-- Reads an escape after its backslash. -/
def escape? : Chars → Option (Char × Chars)
  | 'b' :: r => some ('\x08', r)
  | 't' :: r => some ('\t', r)
  | 'n' :: r => some ('\n', r)
  | 'f' :: r => some ('\x0c', r)
  | 'r' :: r => some ('\r', r)
  | '"' :: r => some ('"', r)
  | '\\' :: r => some ('\\', r)
  | 'u' :: r => numbered? 4 r
  | 'U' :: r => numbered? 8 r
  | _ => none

/-- Reads a string of one line after its opening double quote. -/
def basicString : Nat → Chars → Option (Chars × Chars)
  | 0, _ => none
  | fuel + 1, s =>
    match s with
    | '"' :: r => some ([], r)
    | '\\' :: r => do
      let (c, r) ← escape? r
      let (cs, r) ← basicString fuel r
      some (c :: cs, r)
    | c :: r =>
      if isPlain c then do
        let (cs, r) ← basicString fuel r
        some (c :: cs, r)
      else none
    | [] => none

/-- Reads a string without escapes after its opening single quote. -/
def literalString (s : Chars) : Option (Chars × Chars) :=
  match s.span fun c => isPlain c && c ≠ '\'' with
  | (cs, '\'' :: r) => some (cs, r)
  | _ => none

/-- Skips white space and line ends, and at least one line end. -/
def lineContinuation? (s : Chars) : Option Chars :=
  match newline? (skipWhite s) with
  | some r => some (skip r.length r)
  | none => none
where
  skip : Nat → Chars → Chars
    | 0, s => s
    | fuel + 1, s =>
      match newline? (skipWhite s) with
      | some r => skip fuel r
      | none => skipWhite s

/-- The closing of a string of several lines at a run of quotes: three of them close it, and up to
two more before them belong to it. -/
def closing? (quote : Char) (s : Chars) : Option (Option Chars × Chars) :=
  let (quotes, r) := s.span (· = quote)
  if quotes.length < 3 then none
  else if quotes.length ≤ 5 then some (some (quotes.drop 3), r)
  else some (none, r)

/-- Reads a string of several lines after its opening; with escapes if the quotes are double. Line
ends in it are written as a line feed. -/
def longString (quote : Char) : Nat → Chars → Option (Chars × Chars)
  | 0, _ => none
  | fuel + 1, s =>
    match closing? quote s with
    | some (some quotes, r) => some (quotes, r)
    | some (none, _) => none
    | none =>
      match newline? s with
      | some r => more ['\n'] fuel r
      | none =>
        match s with
        | [] => none
        | c :: r =>
          if c = '\\' && quote = '"' then
            match escape? r with
            | some (c, r) => more [c] fuel r
            | none =>
              match lineContinuation? r with
              | some r => longString quote fuel r
              | none => none
          else if isPlain c then more [c] fuel r
          else none
where
  more (front : Chars) (fuel : Nat) (r : Chars) : Option (Chars × Chars) := do
    let (cs, r) ← longString quote fuel r
    some (front ++ cs, r)

/-- Drops a line end right after the opening of a string of several lines. -/
def dropFirstNewline (s : Chars) : Chars := (newline? s).getD s

/-- Reads a string at its opening quote. -/
def string? : Chars → Option (Chars × Chars)
  | '"' :: '"' :: '"' :: r => longString '"' (r.length + 1) (dropFirstNewline r)
  | '\'' :: '\'' :: '\'' :: r => longString '\'' (r.length + 1) (dropFirstNewline r)
  | '"' :: r => basicString r.length r
  | '\'' :: r => literalString r
  | _ => none

/-- A character of an unquoted key. -/
def isBare (c : Char) : Bool :=
  ('a' ≤ c && c ≤ 'z') || ('A' ≤ c && c ≤ 'Z') || Text.isDigit c || c = '-' || c = '_'

/-- Reads one part of a key. -/
def keyPart? (s : Chars) : Option (String × Chars) :=
  match s with
  | '"' :: r => (basicString r.length r).map fun (cs, r) => (String.ofList cs, r)
  | '\'' :: r => (literalString r).map fun (cs, r) => (String.ofList cs, r)
  | _ =>
    match s.span isBare with
    | ([], _) => none
    | (cs, r) => some (String.ofList cs, r)

/-- The parts of a key are fewer than this, and so are the levels of lists and tables in a value. -/
def depthBound : Nat := 80

/-- Reads a key: parts with dots between them, and white space around each. -/
def keyParts : Nat → Chars → Option (List String × Chars)
  | 0, _ => none
  | fuel + 1, s => do
    let (part, r) ← keyPart? (skipWhite s)
    match skipWhite r with
    | '.' :: r => do
      let (parts, r) ← keyParts fuel r
      some (part :: parts, r)
    | r => some ([part], r)

def key? (s : Chars) : Option (List String × Chars) := keyParts (depthBound - 1) s

end Confine.Toml
