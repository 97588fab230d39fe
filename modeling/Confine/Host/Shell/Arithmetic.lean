import Confine.Host.Octets

/-!
Arithmetic expressions of the shell language, on words of 64 bits.
-/

namespace Confine.Host.Shell

inductive Arithmetic where
  | number (n : Int)
  | variableOf (name : String)
  | unary (op : Char) (a : Arithmetic)
  | binary (op : String) (a b : Arithmetic)
  | choice (test yes no : Arithmetic)
  /-- With an operator the old value is its left side. -/
  | assign (name op : String) (a : Arithmetic)

namespace Arithmetic

inductive Fault where
  | expected (what : String)
  | divisionByZero
  | illegalNumber (text : String)
deriving DecidableEq

/-- The message about a fault in an expression. -/
def Fault.message (expression : String) : Fault → String
  | expected what => "arithmetic expression: expecting " ++ what ++ ": \"" ++ expression ++ "\""
  | divisionByZero => "arithmetic expression: division by zero: \"" ++ expression ++ "\""
  | illegalNumber text => "Illegal number: " ++ text

def isBlank (c : Char) : Bool := c = ' ' || c = '\t' || c = '\n'

/-- The value of a digit, small and capital letters being the digits from ten on. -/
def digit? (c : Char) : Option Nat :=
  if c.isDigit then some (c.toNat - 48)
  else if 'a' ≤ c && c ≤ 'f' then some (c.toNat - 87)
  else if 'A' ≤ c && c ≤ 'F' then some (c.toNat - 55)
  else none

/-- The digits of a base at the front of a text. -/
def digits (base : Nat) (cs : List Char) : List Nat :=
  (cs.takeWhile fun c => ((digit? c).getD base) < base).filterMap digit?

/-- A number at the front of a text: hexadecimal, octal or decimal. -/
def number? (cs : List Char) : Option (Nat × List Char) :=
  let value (base : Nat) (ds : List Nat) : Nat := ds.foldl (fun n d => n * base + d) 0
  match cs with
  | '0' :: x :: rest =>
    let ds := digits 16 rest
    if (x = 'x' || x = 'X') && !ds.isEmpty then some (value 16 ds, rest.drop ds.length)
    else
      let ds := digits 8 cs
      some (value 8 ds, cs.drop ds.length)
  | _ =>
    let ds := digits 10 cs
    if ds.isEmpty then none else some (value 10 ds, cs.drop ds.length)

/-- A value in the range of the words. -/
def wrap (n : Int) : Int := Int.bmod n 0x10000000000000000

/-- The number that a whole text stands for; an empty text is zero. -/
def ofText? (s : String) : Option Int :=
  let cs := (s.toList.dropWhile isBlank)
  if cs = [] then some 0
  else
    let (negative, cs) := match cs with
      | '-' :: rest => (true, rest)
      | '+' :: rest => (false, rest)
      | _ => (false, cs)
    match number? cs with
    | some (n, rest) =>
      if rest.all isBlank then some (wrap (if negative then -(n : Int) else n)) else none
    | none => none

/-- The binary operators with their ranks; a higher rank binds more tightly, and a longer operator
comes before a shorter one that starts it. -/
def binaryOperators : List (String × Nat) :=
  [("||", 1), ("&&", 2), ("==", 6), ("!=", 6), ("<<", 8), (">>", 8), ("<=", 7), (">=", 7),
    ("|", 3), ("^", 4), ("&", 5), ("<", 7), (">", 7), ("+", 9), ("-", 9), ("*", 10), ("/", 10),
    ("%", 10)]

/-- The operators of an assignment, without the sign of equality. -/
def assignOperators : List String := ["", "+", "-", "*", "/", "%", "<<", ">>", "&", "|", "^"]

def skip (cs : List Char) : List Char := cs.dropWhile isBlank

/-- A binary operator of at least a rank at the front of a text. -/
def operator? (rank : Nat) (cs : List Char) : Option (String × Nat × List Char) :=
  match binaryOperators.find? fun (op, _) => op.toList.isPrefixOf cs with
  | some (op, r) => if rank ≤ r then some (op, r, cs.drop op.length) else none
  | none => none

/-- The operator of an assignment at the front of a text. -/
def assignment? (cs : List Char) : Option (String × List Char) :=
  let found := assignOperators.find? fun op =>
    (op.toList ++ ['=']).isPrefixOf cs && cs[op.length + 1]? ≠ some '='
  found.map fun op => (op, cs.drop (op.length + 1))

mutual

/-- Reads an assignment or a choice. -/
def expression : Nat → List Char → Except Fault (Arithmetic × List Char)
  | 0, _ => .error (.expected "primary")
  | n + 1, cs => do
    let cs := skip cs
    let name := if (cs.head?.map isNameStart).getD false then cs.takeWhile isNameChar else []
    match if name.isEmpty then none else assignment? (skip (cs.drop name.length)) with
    | some (op, rest) =>
      let (value, rest) ← expression n rest
      return (.assign (String.ofList name) op value, rest)
    | none =>
      let (test, rest) ← operand n cs
      let (test, rest) ← tail n 1 test rest
      match skip rest with
      | '?' :: rest =>
        let (yes, rest) ← expression n rest
        match skip rest with
        | ':' :: rest =>
          let (no, rest) ← expression n rest
          return (.choice test yes no, rest)
        | _ => throw (.expected "':'")
      | _ => return (test, rest)

/-- Reads binary operators of at least a rank behind a left side. -/
def tail : Nat → Nat → Arithmetic → List Char → Except Fault (Arithmetic × List Char)
  | 0, _, left, cs => .ok (left, cs)
  | n + 1, rank, left, cs =>
    match operator? rank (skip cs) with
    | none => .ok (left, cs)
    | some (op, r, rest) => do
      let (right, rest) ← operand n (skip rest)
      let (right, rest) ← tail n (r + 1) right rest
      tail n rank (.binary op left right) rest

def operand : Nat → List Char → Except Fault (Arithmetic × List Char)
  | 0, _ => .error (.expected "primary")
  | n + 1, cs =>
    match skip cs with
    | '(' :: rest => do
      let (inner, rest) ← expression n rest
      match skip rest with
      | ')' :: rest => return (inner, rest)
      | _ => throw (.expected "')'")
    | c :: rest =>
      if ['-', '+', '!', '~'].contains c then do
        let (a, rest) ← operand n rest
        return (.unary c a, rest)
      else if isNameStart c then
        .ok (.variableOf (String.ofList ((c :: rest).takeWhile isNameChar)),
          rest.dropWhile isNameChar)
      else
        match number? (c :: rest) with
        | some (v, rest) => .ok (.number (wrap v), rest)
        | none => .error (.expected "primary")
    | [] => .error (.expected "primary")

end

/-- Reads a whole text as an expression; an empty text is zero. -/
def parse (cs : List Char) : Except Fault Arithmetic := do
  if skip cs = [] then return .number 0
  let (a, rest) ← expression (4 * cs.length + 16) cs
  if skip rest = [] then return a else throw (.expected "EOF")

def ofBool (b : Bool) : Int := if b then 1 else 0

/-- The bits of a word as a natural number. -/
def toBits (n : Int) : Nat := (n % 0x10000000000000000).toNat

def ofBits (n : Nat) : Int := wrap n

/-- The value of an operator other than those that may leave out a side. -/
def apply (op : String) (a b : Int) : Except Fault Int :=
  match op with
  | "==" => .ok (ofBool (a = b))
  | "!=" => .ok (ofBool (a ≠ b))
  | "<" => .ok (ofBool (a < b))
  | "<=" => .ok (ofBool (a ≤ b))
  | ">" => .ok (ofBool (a > b))
  | ">=" => .ok (ofBool (a ≥ b))
  | "|" => .ok (ofBits (toBits a ||| toBits b))
  | "^" => .ok (ofBits (toBits a ^^^ toBits b))
  | "&" => .ok (ofBits (toBits a &&& toBits b))
  | "<<" => .ok (wrap (a * (1 <<< (toBits b % 64) : Nat)))
  | ">>" => .ok (a / (1 <<< (toBits b % 64) : Nat))
  | "+" => .ok (wrap (a + b))
  | "-" => .ok (wrap (a - b))
  | "*" => .ok (wrap (a * b))
  | "/" => if b = 0 then .error .divisionByZero else .ok (wrap (a.tdiv b))
  | "%" => if b = 0 then .error .divisionByZero else .ok (a.tmod b)
  | _ => .ok b

/-- Values that an expression has assigned, the newest first. -/
abbrev Assigned := List (String × Int)

/-- The value of a variable. -/
def fetch (lookup : String → String) (assigned : Assigned) (name : String) : Except Fault Int :=
  match assigned.lookup name with
  | some n => .ok n
  | none =>
    match ofText? (lookup name) with
    | some n => .ok n
    | none => .error (.illegalNumber (lookup name))

/-- The value of an expression, with the assignments that it makes. -/
def eval (lookup : String → String) : Arithmetic → Assigned → Except Fault (Int × Assigned)
  | number n, m => .ok (n, m)
  | variableOf name, m => do return (← fetch lookup m name, m)
  | unary op a, m => do
    let (v, m) ← eval lookup a m
    return (match op with
      | '-' => wrap (-v)
      | '!' => ofBool (v = 0)
      | '~' => -v - 1
      | _ => v, m)
  | binary "||" a b, m => do
    let (v, m) ← eval lookup a m
    if v ≠ 0 then return (1, m)
    let (w, m) ← eval lookup b m
    return (ofBool (w ≠ 0), m)
  | binary "&&" a b, m => do
    let (v, m) ← eval lookup a m
    if v = 0 then return (0, m)
    let (w, m) ← eval lookup b m
    return (ofBool (w ≠ 0), m)
  | binary op a b, m => do
    let (v, m) ← eval lookup a m
    let (w, m) ← eval lookup b m
    return (← apply op v w, m)
  | choice test yes no, m => do
    let (v, m) ← eval lookup test m
    if v ≠ 0 then eval lookup yes m else eval lookup no m
  | assign name op a, m => do
    let (v, m) ← eval lookup a m
    let old ← if op = "" then pure 0 else fetch lookup m name
    let v ← apply op old v
    return (v, (name, v) :: m)

end Arithmetic

end Confine.Host.Shell
