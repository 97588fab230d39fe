import Confine.Host.Files
import Confine.Host.Octets

/-!
Conditions given as arguments: comparisons of texts and numbers, questions about files, and their
combinations.
-/

namespace Confine.Host

namespace Condition

inductive Fault where
  | illegalNumber (text : String)
  | unexpectedOperator (text : String)
  | missingArgument (text : String)
  | missingParenthesis
deriving DecidableEq

def Fault.message : Fault → String
  | illegalNumber text => "Illegal number: " ++ text
  | unexpectedOperator "" => "unexpected operator"
  | unexpectedOperator text => text ++ ": unexpected operator"
  | missingArgument text => text ++ ": argument expected"
  | missingParenthesis => "closing paren expected"

/-- Questions about the file that a path names. -/
def fileQuestions : List String :=
  ["-e", "-f", "-d", "-r", "-w", "-x", "-s", "-b", "-c", "-p", "-u", "-g", "-k", "-S", "-L", "-h",
    "-O", "-G"]

/-- Other questions about one argument. -/
def textQuestions : List String := ["-n", "-z", "-t"]

def comparisons : List String :=
  ["=", "!=", "<", ">", "-eq", "-ne", "-lt", "-le", "-gt", "-ge", "-nt", "-ot", "-ef"]

/-- The paths that a condition asks about. -/
def paths : List String → List String
  | q :: path :: rest =>
    if fileQuestions.contains q then path :: paths (path :: rest) else paths (path :: rest)
  | _ => []

/-- The answer to a question about a file. -/
def askFile (question : String) (node : Option Node) : Bool :=
  match node with
  | none => false
  | some n =>
    match question with
    | "-e" | "-r" | "-w" | "-O" | "-G" => true
    | "-f" =>
      match n with
      | .file _ | .program _ | .limits => true
      | _ => false
    | "-d" => n = .directory
    | "-x" =>
      match n with
      | .directory | .program _ => true
      | _ => false
    | "-s" =>
      match n with
      | .file content => !content.isEmpty
      | .directory | .program _ => true
      | _ => false
    | "-c" => n = .null || n = .zero || n = .full
    | _ => false

def isSpace (c : Char) : Bool := c = ' ' || ('\t' ≤ c && c ≤ '\r')

/-- The integer in a text that may have blanks around it. -/
def integer (s : String) : Except Fault Int :=
  let front := s.toList.dropWhile isSpace
  match Octets.int? (String.ofList (front.reverse.dropWhile isSpace).reverse) with
  | some n =>
    if -0x8000000000000000 ≤ n ∧ n < 0x8000000000000000 then .ok n else .error (.illegalNumber s)
  | none => .error (.illegalNumber s)

/-- Compares two texts or two numbers. -/
def compare (op a b : String) : Except Fault Bool := do
  match op with
  | "=" => return a = b
  | "!=" => return a ≠ b
  | "<" => return a < b
  | ">" => return b < a
  | "-nt" | "-ot" => return false
  | "-ef" => return a = b
  | _ =>
    let x ← integer a
    let y ← integer b
    return match op with
      | "-eq" => decide (x = y)
      | "-ne" => decide (x ≠ y)
      | "-lt" => decide (x < y)
      | "-le" => decide (x ≤ y)
      | "-gt" => decide (x > y)
      | _ => decide (x ≥ y)

/-- What an argument is at its place. -/
inductive Token where
  | atEnd
  | operand
  /-- A question about the argument behind it. -/
  | question (name : String)
  | comparison (name : String)
  | negation
  | conjunction
  | disjunction
  | opening
  | closing
deriving DecidableEq

/-- The token that an argument would be by itself. -/
def operator? (arg : String) : Option Token :=
  if fileQuestions.contains arg || textQuestions.contains arg then some (.question arg)
  else if comparisons.contains arg then some (.comparison arg)
  else List.lookup arg
    [("!", .negation), ("-a", .conjunction), ("-o", .disjunction), ("(", .opening), (")", .closing)]

def isComparison (arg : String) : Bool :=
  match operator? arg with
  | some (.comparison _) => true
  | _ => false

/-- The token at the front of arguments. A question is an operand if nothing follows it or if it is
the left side of a comparison, and so is a parenthesis that nothing follows. -/
def token : List String → Token
  | [] => .atEnd
  | arg :: rest =>
    match operator? arg with
    | some (.question name) =>
      match rest with
      | [] => .operand
      | [_] => .question name
      | next :: _ => if isComparison next then .operand else .question name
    | some .opening => if rest.isEmpty then .operand else .opening
    | some t => t
    | none => .operand

mutual

/-- Reads alternatives. What is left begins with the last argument that was read. -/
def either (file : String → Option Node) :
    Nat → Token → List String → Except Fault (Bool × List String)
  | 0, _, args => .ok (false, args)
  | n + 1, t, args => do
    let (a, last) ← both file n t args
    if token (last.drop 1) = .disjunction then
      let args := last.drop 2
      let (b, last) ← either file n (token args) args
      return (a || b, last)
    else return (a, last)

/-- Reads conditions that must all hold. -/
def both (file : String → Option Node) :
    Nat → Token → List String → Except Fault (Bool × List String)
  | 0, _, args => .ok (false, args)
  | n + 1, t, args => do
    let (a, last) ← negated file n t args
    if token (last.drop 1) = .conjunction then
      let args := last.drop 2
      let (b, last) ← both file n (token args) args
      return (a && b, last)
    else return (a, last)

def negated (file : String → Option Node) :
    Nat → Token → List String → Except Fault (Bool × List String)
  | 0, _, args => .ok (false, args)
  | n + 1, t, args =>
    if t = .negation then do
      let next := args.drop 1
      let (v, last) ← negated file n (token next) (if next.isEmpty then args else next)
      return (!v, last)
    else single file n t args

def single (file : String → Option Node) :
    Nat → Token → List String → Except Fault (Bool × List String)
  | 0, _, args => .ok (false, args)
  | n + 1, t, args =>
    match t, args with
    | .atEnd, _ | _, [] => .ok (false, args)
    | .opening, _ :: inner =>
      if token inner = .closing then .ok (false, inner)
      else do
        let (v, last) ← either file n (token inner) inner
        if token (last.drop 1) = .closing then return (v, last.drop 1)
        else throw .missingParenthesis
    | .question name, _ :: rest =>
      match rest with
      | [] => .error (.missingArgument name)
      | arg :: _ =>
        match name with
        | "-n" => .ok (arg ≠ "", rest)
        | "-z" => .ok (arg = "", rest)
        | "-t" => (integer arg).map fun _ => (false, rest)
        | _ => .ok (askFile name (file arg), rest)
    | _, a :: rest =>
      match token rest, rest with
      | .comparison op, _ :: b :: more => (compare op a b).map fun v => (v, b :: more)
      | .comparison op, _ => .error (.missingArgument op)
      | _, _ => .ok (a ≠ "", a :: rest)

end

/-- Reads a whole condition; nothing but its last argument may be left. -/
def whole (file : String → Option Node) (t : Token) (args : List String) : Except Fault Bool := do
  match ← either file (4 * args.length + 8) t args with
  | (_, a :: _ :: _) => throw (.unexpectedOperator a)
  | (v, _) => return v

/-- Whether a condition holds. Without arguments it does not. With three or four of them a
comparison, parentheses around the others and a negation of the others are seen first. -/
def holds (file : String → Option Node) : List String → Except Fault Bool
  | [] => .ok false
  | args@(a :: rest) =>
    let compared := match args with
      | [_, op, _] => isComparison op
      | _ => false
    if compared then whole file .operand args
    else if args.length = 3 || args.length = 4 then
      if a = "(" && args.getLast? = some ")" then
        let inner := rest.dropLast
        whole file (token inner) inner
      else if a = "!" then (holds file rest).map (!·)
      else whole file (token args) args
    else whole file (token args) args

end Condition

end Confine.Host
