import Confine.Host.Octets

/-!
Patterns of the shell language: a question mark stands for any one character, an asterisk for any
text, and brackets for one of several characters.
-/

namespace Confine.Host.Shell

/-- A character with the mark whether it may have a meaning in a pattern. -/
abbrev Marked := Char × Bool

inductive Pattern where
  | literal (c : Char)
  | anyOne
  | anyText
  | oneOf (negated : Bool) (ranges : List (Char × Char))
deriving DecidableEq

namespace Pattern

/-- The members of a named class of characters, as ranges. -/
def classRanges : String → List (Char × Char)
  | "alpha" => [('a', 'z'), ('A', 'Z')]
  | "digit" => [('0', '9')]
  | "alnum" => [('a', 'z'), ('A', 'Z'), ('0', '9')]
  | "upper" => [('A', 'Z')]
  | "lower" => [('a', 'z')]
  | "space" => [(' ', ' '), ('\t', '\x0d')]
  | "blank" => [(' ', ' '), ('\t', '\t')]
  | "punct" => [('!', '/'), (':', '@'), ('[', '\x60'), ('\x7b', '~')]
  | "print" => [(' ', '~')]
  | "graph" => [('!', '~')]
  | "cntrl" => [('\x00', '\x1f'), ('\x7f', '\x7f')]
  | "xdigit" => [('0', '9'), ('a', 'f'), ('A', 'F')]
  | _ => []

/-- The ranges between brackets. The first character may be a closing bracket, and a dash stands
for the characters between its neighbours. -/
def ranges : Nat → List Char → List (Char × Char)
  | 0, _ => []
  | _, [] => []
  | n + 1, '[' :: ':' :: cs =>
    let name := cs.takeWhile (· ≠ ':')
    if (cs.drop name.length).take 2 = [':', ']'] then
      classRanges (String.ofList name) ++ ranges n (cs.drop (name.length + 2))
    else ('[', '[') :: ranges n (':' :: cs)
  | n + 1, a :: '-' :: b :: cs => (a, b) :: ranges n cs
  | n + 1, a :: cs => (a, a) :: ranges n cs

/-- The text up to the closing bracket and the text behind it, if there is one. The first character
does not close, and neither does the bracket that ends the name of a class. -/
def bracketed (inClass first : Bool) : List Marked → Option (List Char × List Marked)
  | [] => none
  | (c, _) :: rest =>
    if c = ']' && !inClass && !first then some ([], rest)
    else
      let opens := c = '[' && !inClass && (rest.head?.map (·.1)) = some ':'
      (bracketed (opens || (inClass && c ≠ ']')) false rest).map fun (body, more) =>
        (c :: body, more)

/-- Reads a pattern; a bracket that is not closed stands for itself. -/
def read : Nat → List Marked → List Pattern
  | 0, _ => []
  | _, [] => []
  | n + 1, (c, active) :: rest =>
    if !active then .literal c :: read n rest
    else
      match c with
      | '?' => .anyOne :: read n rest
      | '*' => .anyText :: read n rest
      | '[' =>
        let (negated, inner) := match rest with
          | ('!', true) :: inner | ('^', true) :: inner => (true, inner)
          | inner => (false, inner)
        match bracketed false true inner with
        | some (body, more) => .oneOf negated (ranges (body.length + 1) body) :: read n more
        | none => .literal c :: read n rest
      | _ => .literal c :: read n rest

/-- The pattern of marked characters. -/
def ofMarked (ms : List Marked) : List Pattern := read (ms.length + 1) ms

/-- A text and all that remains when characters are taken off its front. -/
def suffixes : List Char → List (List Char)
  | [] => [[]]
  | c :: cs => (c :: cs) :: suffixes cs

/-- Whether a pattern stands for a whole text. -/
def accepts : List Pattern → List Char → Bool
  | [], cs => cs.isEmpty
  | .literal d :: ps, c :: cs => c = d && accepts ps cs
  | .anyOne :: ps, _ :: cs => accepts ps cs
  | .oneOf negated rs :: ps, c :: cs =>
    (rs.any fun (a, b) => a ≤ c && c ≤ b) != negated && accepts ps cs
  | .anyText :: ps, cs => (suffixes cs).any (accepts ps)
  | _ :: _, [] => false

/-- Whether marked characters have anything but literal ones. -/
def hasActive (ms : List Marked) : Bool :=
  ms.any fun (c, active) => active && "?*[".toList.contains c

/-- Takes the shortest or the longest match off the front. -/
def trimFront (p : List Pattern) (longest : Bool) (cs : List Char) : List Char :=
  let lengths := List.range (cs.length + 1)
  let lengths := if longest then lengths.reverse else lengths
  match lengths.find? fun n => accepts p (cs.take n) with
  | some n => cs.drop n
  | none => cs

/-- Takes the shortest or the longest match off the back. -/
def trimBack (p : List Pattern) (longest : Bool) (cs : List Char) : List Char :=
  let lengths := List.range (cs.length + 1)
  let lengths := if longest then lengths else lengths.reverse
  match lengths.find? fun n => accepts p (cs.drop n) with
  | some n => cs.take n
  | none => cs

end Pattern

end Confine.Host.Shell
