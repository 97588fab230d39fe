import Confine.Host.Octets

/-!
The commands of the shell language. Words keep what is to be put in for them at run time; the text
of a command substitution is read only then.
-/

namespace Confine.Host.Shell

/-- What a parameter expansion does with its word. -/
inductive ParameterOp where
  /-- The word stands in for a missing value. -/
  | orElse
  /-- The word becomes the missing value. -/
  | orAssign
  /-- A missing value is an error with the word as its message. -/
  | orFail
  /-- The word stands in for a value that is there. -/
  | ifSet
  /-- The word is a pattern that is taken off the front or the back. -/
  | trim (back longest : Bool)
deriving DecidableEq

inductive Part where
  | text (chars : List Char) (quoted : Bool)
  | parameter (name : String) (quoted : Bool)
  | length (name : String) (quoted : Bool)
  /-- With `nonempty` an empty value counts as a missing one. -/
  | operate (name : String) (op : ParameterOp) (nonempty : Bool) (word : List Part) (quoted : Bool)
  | arithmetic (word : List Part) (quoted : Bool)
  | command (source : List Char) (quoted : Bool)
  /-- What a command substitution yielded. -/
  | result (chars : List Char) (quoted : Bool)

abbrev Word := List Part

inductive RedirectKind where
  | input
  | output
  | append
  | inputOutput
  /-- The target is the number of a descriptor, or a dash to close. -/
  | duplicate
  /-- The target is the input itself. -/
  | here
deriving DecidableEq

structure Redirect where
  fd : Nat
  kind : RedirectKind
  target : Word

structure SimpleCommand where
  assignments : List (String × Word) := []
  words : List Word := []
  redirects : List Redirect := []
  line : Nat := 1

inductive Command where
  | nothing
  | simple (c : SimpleCommand)
  | sequence (first second : Command)
  /-- The second one runs if the first one succeeds. -/
  | both (first second : Command)
  /-- The second one runs if the first one fails. -/
  | either (first second : Command)
  | negate (c : Command)
  | pipe (left right : Command)
  | background (c : Command)
  | group (body : Command) (redirects : List Redirect)
  | subshell (body : Command) (redirects : List Redirect)
  | branch (test yes no : Command)
  /-- Runs the body as long as the test succeeds, or with `inverted` as long as it fails. -/
  | loop (inverted : Bool) (test body : Command)
  /-- Without words the loop goes over the positional parameters. -/
  | forEach (name : String) (words : Option (List Word)) (body : Command) (line : Nat)
  | choose (subject : Word) (cases : List (List Word × Command)) (line : Nat)
  | define (name : String) (body : Command)

namespace Command

/-- The stages of a pipeline. -/
def stages : Command → List Command
  | pipe left right => left :: right.stages
  | c => [c]

end Command

/-- The builtins whose failures end the shell; no function can have such a name. -/
def specialBuiltins : List String :=
  [".", ":", "break", "continue", "eval", "exec", "exit", "export", "readonly", "return", "set",
    "shift", "times", "trap", "unset"]

/-- Why a script is not in the language. -/
inductive FaultKind where
  | unterminatedQuote
  | unterminatedBackquote
  | missing (closing : String)
  /-- A token does not fit; the flag tells that it is the end of the text. -/
  | unexpected (atEnd : Bool) (token : String) (expecting : Option String)
  | badSubstitution
  | badForVariable
  | badFunctionName
deriving DecidableEq

namespace FaultKind

def message : FaultKind → String
  | unterminatedQuote => "Syntax error: Unterminated quoted string"
  | unterminatedBackquote => "Syntax error: EOF in backquote substitution"
  | missing closing => "Syntax error: Missing '" ++ closing ++ "'"
  | unexpected _ token expecting =>
    "Syntax error: " ++ token ++ " unexpected" ++
      match expecting with
      | some s => " (expecting " ++ s ++ ")"
      | none => ""
  | badSubstitution => "Bad substitution"
  | badForVariable => "Syntax error: Bad for loop variable"
  | badFunctionName => "Syntax error: Bad function name"

/-- Whether more text could mend the script. -/
def incomplete : FaultKind → Bool
  | unterminatedQuote | unterminatedBackquote | missing _ => true
  | unexpected atEnd _ _ => atEnd
  | _ => false

end FaultKind

/-- A script that is not in the language, with the number of line ends behind the place where that
shows. -/
structure Fault where
  kind : FaultKind
  linesBehind : Nat := 0
deriving DecidableEq

end Confine.Host.Shell
