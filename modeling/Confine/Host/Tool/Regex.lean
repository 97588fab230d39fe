import Confine.Host.Shell.Pattern

/-!
Regular expressions on single lines, in the basic and the extended notation.
-/

namespace Confine.Host

inductive Regex where
  | empty
  | anyOne
  | oneOf (negated : Bool) (ranges : List (Char × Char))
  | lineStart
  | lineEnd
  | sequence (a b : Regex)
  | either (a b : Regex)
  /-- Any number of times. -/
  | many (a : Regex)
deriving DecidableEq

namespace Regex

/-- A place in a line: the character in front of it, and what is behind it. -/
abbrev Place := Option Char × List Char

/-- The places that a match can end at. The bound limits the repetitions. -/
def ends (ignoreCase : Bool) : Nat → Regex → Place → List Place
  | 0, _, _ => []
  | _, .empty, p => [p]
  | _, .anyOne, (_, c :: cs) => [(some c, cs)]
  | _, .oneOf negated rs, (_, c :: cs) =>
    let inside (c : Char) : Bool := rs.any fun (a, b) => a ≤ c && c ≤ b
    let found := inside c || (ignoreCase && (inside c.toLower || inside c.toUpper))
    if found != negated then [(some c, cs)] else []
  | _, .lineStart, p => if p.1.isNone then [p] else []
  | _, .lineEnd, p => if p.2.isEmpty then [p] else []
  | n + 1, .sequence a b, p => (ends ignoreCase n a p).flatMap (ends ignoreCase n b)
  | n + 1, .either a b, p => ends ignoreCase n a p ++ ends ignoreCase n b p
  | n + 1, .many a, p =>
    p :: ((ends ignoreCase n a p).filter fun q => q.2.length < p.2.length).flatMap
      (ends ignoreCase n (.many a))
  | _, _, _ => []

def size : Regex → Nat
  | sequence a b | either a b => size a + size b + 1
  | many a => size a + 1
  | _ => 1

/-- What a match has to cover. -/
inductive Extent where
  | anything
  /-- No letter, digit or underscore stands next to it. -/
  | words
  | lines
deriving DecidableEq

/-- Whether a match between two places counts. -/
def Extent.allows (e : Extent) (p q : Place) : Bool :=
  let isWord (c : Char) : Bool := c.isAlphanum || c = '_'
  match e with
  | anything => true
  | words => !p.1.any isWord && !q.2.head?.any isWord
  | lines => p.1.isNone && q.2.isEmpty

/-- How expressions are looked for. -/
structure Search where
  alternatives : List Regex
  ignoreCase : Bool := false
  extent : Extent := .anything

namespace Search

/-- What is behind the longest match at a place. -/
def restAt? (s : Search) (p : Place) : Option (List Char) :=
  let fuel (r : Regex) : Nat := size r * (p.2.length + 2) + 8
  let found := s.alternatives.flatMap fun r =>
    ((ends s.ignoreCase (fuel r) r p).filter (s.extent.allows p)).map (·.2)
  found.foldl (fun best q =>
    match best with
    | some b => if q.length < b.length then some q else some b
    | none => some q) none

/-- Whether there is a match at a place or behind it. -/
def foundFrom (s : Search) (before : Option Char) : List Char → Bool
  | [] => (s.restAt? (before, [])).isSome
  | c :: cs => (s.restAt? (before, c :: cs)).isSome || s.foundFrom (some c) cs

/-- Whether a line has a match. -/
def found (s : Search) (line : List Char) : Bool := s.foundFrom none line

/-- The matches in a line, each as long as possible; `skip` characters belong to the last one. -/
def matchesFrom (s : Search) (before : Option Char) : Nat → List Char → List (List Char)
  | _, [] => []
  | skip + 1, c :: cs => s.matchesFrom (some c) skip cs
  | 0, c :: cs =>
    match s.restAt? (before, c :: cs) with
    | some rest =>
      let length := cs.length + 1 - rest.length
      if length = 0 then s.matchesFrom (some c) 0 cs
      else (c :: cs).take length :: s.matchesFrom (some c) (length - 1) cs
    | none => s.matchesFrom (some c) 0 cs

end Search

def literal (c : Char) : Regex := .oneOf false [(c, c)]

/-- Letters, digits and the underscore. -/
def wordRanges : List (Char × Char) := [('a', 'z'), ('A', 'Z'), ('0', '9'), ('_', '_')]

/-- A text that stands for itself. -/
def ofText (cs : List Char) : Regex := cs.foldr (fun c r => .sequence (literal c) r) .empty

/-- Whether the text starts with an operator of the notation. -/
def startsWith (extended : Bool) (op : Char) : List Char → Option (List Char)
  | '\\' :: c :: cs => if !extended && c = op then some cs else none
  | c :: cs => if extended && c = op then some cs else none
  | [] => none

/-- Reads the bounds of a repetition behind its opening brace. -/
def interval? (extended : Bool) (cs : List Char) : Option (Nat × Option Nat × List Char) :=
  let number (cs : List Char) : Option Nat × List Char :=
    let ds := cs.takeWhile Char.isDigit
    (Octets.digits? (String.ofList ds), cs.drop ds.length)
  let close (cs : List Char) : Option (List Char) := startsWith extended '\x7d' cs
  let (least, rest) := number cs
  match rest with
  | ',' :: more =>
    let (most, rest) := number more
    if least.isNone && most.isNone then none
    else (close rest).map fun rest => (least.getD 0, most, rest)
  | _ =>
    match least with
    | some n => (close rest).map fun rest => (n, some n, rest)
    | none => none

/-- An expression repeated between two bounds, or from one on. -/
def repeated (least : Nat) (most : Option Nat) (a : Regex) : Regex :=
  let more := match most with
    | some m =>
      (List.replicate (m - least) a).foldl (fun r a => .either (.sequence a r) .empty) .empty
    | none => .many a
  (List.replicate least a).foldl (fun r a => .sequence a r) more

mutual

/-- Reads alternatives. -/
def alternatives (extended : Bool) : Nat → List Char → Regex × List Char
  | 0, cs => (.empty, cs)
  | n + 1, cs =>
    let (a, rest) := pieces extended n true cs
    match startsWith extended '|' rest with
    | some rest =>
      let (b, rest) := alternatives extended n rest
      (.either a b, rest)
    | none => (a, rest)

/-- Reads pieces one after another. -/
def pieces (extended : Bool) : Nat → Bool → List Char → Regex × List Char
  | 0, _, cs => (.empty, cs)
  | n + 1, first, cs =>
    if cs.isEmpty || (startsWith extended '|' cs).isSome || (startsWith extended ')' cs).isSome then
      (.empty, cs)
    else
      let (a, rest) := atom extended n first cs
      let (a, rest) := repeats extended n a rest
      let (b, rest) := pieces extended n false rest
      (.sequence a b, rest)

/-- Reads the repetitions behind a piece. -/
def repeats (extended : Bool) : Nat → Regex → List Char → Regex × List Char
  | 0, a, cs => (a, cs)
  | n + 1, a, cs =>
    match cs with
    | '*' :: rest => repeats extended n (.many a) rest
    | _ =>
      match startsWith extended '+' cs with
      | some rest => repeats extended n (.sequence a (.many a)) rest
      | none =>
        match startsWith extended '?' cs with
        | some rest => repeats extended n (.either a .empty) rest
        | none =>
          match (startsWith extended '\x7b' cs).bind (interval? extended) with
          | some (least, most, rest) => repeats extended n (repeated least most a) rest
          | none => (a, cs)

def atom (extended : Bool) : Nat → Bool → List Char → Regex × List Char
  | 0, _, cs => (.empty, cs)
  | n + 1, first, cs =>
    match startsWith extended '(' cs with
    | some rest =>
      let (inner, rest) := alternatives extended n rest
      (inner, (startsWith extended ')' rest).getD rest)
    | none =>
      match cs with
      | '.' :: rest => (.anyOne, rest)
      | '^' :: rest => if extended || first then (.lineStart, rest) else (literal '^', rest)
      | '$' :: rest => if extended || rest.isEmpty then (.lineEnd, rest) else (literal '$', rest)
      | '[' :: rest =>
        let (negated, inner) := match rest with
          | '^' :: inner => (true, inner)
          | _ => (false, rest)
        match Shell.Pattern.bracketed false true (inner.map (·, true)) with
        | some (body, more) =>
          (.oneOf negated (Shell.Pattern.ranges (body.length + 1) body), more.map (·.1))
        | none => (literal '[', rest)
      | '\\' :: 'w' :: rest => (.oneOf false wordRanges, rest)
      | '\\' :: 'W' :: rest => (.oneOf true wordRanges, rest)
      | '\\' :: c :: rest => (literal c, rest)
      | c :: rest => (literal c, rest)
      | [] => (.empty, [])

end

/-- Reads a regular expression. -/
def parse (extended : Bool) (s : String) : Regex :=
  (alternatives extended (4 * s.length + 8) s.toList).1

end Regex

end Confine.Host
