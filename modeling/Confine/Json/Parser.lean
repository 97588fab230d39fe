import Confine.Data.Basic
import Confine.Text.Decimal

/-!
Reading JSON text. Numbers beyond the range of a binary64 float, and strings and objects with
surrogates that form no character, are well-formed but have no value.
-/

namespace Confine.Json

/-- How JSON is read into typed values. -/
def format : DataFormat := { surplusItems := false, maxDepth := some 127 }

/-- White space between tokens. -/
def isSpace (c : Char) : Bool := c = ' ' || c = '\t' || c = '\n' || c = '\r'

def skipSpace (s : List Char) : List Char := s.dropWhile isSpace

/-- The value of a hexadecimal digit. -/
def hexValue? (c : Char) : Option Nat :=
  if '0' ≤ c ∧ c ≤ '9' then some (c.toNat - 48)
  else if 'a' ≤ c ∧ c ≤ 'f' then some (c.toNat - 87)
  else if 'A' ≤ c ∧ c ≤ 'F' then some (c.toNat - 55)
  else none

/-- Four hexadecimal digits. -/
def hex4? : List Char → Option (Nat × List Char)
  | a :: b :: c :: d :: r => do
    let n := 4096 * (← hexValue? a) + 256 * (← hexValue? b) + 16 * (← hexValue? c) + (← hexValue? d)
    some (n, r)
  | _ => none

/-- The character of a one-letter escape. -/
def simpleEscape? : Char → Option Char
  | '"' => some '"'
  | '\\' => some '\\'
  | '/' => some '/'
  | 'b' => some '\x08'
  | 'f' => some '\x0c'
  | 'n' => some '\n'
  | 'r' => some '\r'
  | 't' => some '\t'
  | _ => none

/-- A part of a string: a character, or a 16-bit unit of an escape. -/
inductive Piece where
  | char (c : Char)
  | unit (n : Nat)

/-- Reads the pieces of a string up to its closing quote. -/
def pieces : Nat → List Char → Option (List Piece × List Char)
  | 0, _ => none
  | fuel + 1, s =>
    match s with
    | [] => none
    | '"' :: r => some ([], r)
    | '\\' :: 'u' :: r => do
      let (n, r) ← hex4? r
      let (ps, r) ← pieces fuel r
      some (.unit n :: ps, r)
    | '\\' :: c :: r => do
      let c ← simpleEscape? c
      let (ps, r) ← pieces fuel r
      some (.char c :: ps, r)
    | c :: r =>
      if c.toNat < 0x20 || c = '\\' then none
      else do
        let (ps, r) ← pieces fuel r
        some (.char c :: ps, r)

def isHighSurrogate (n : Nat) : Bool := 0xD800 ≤ n && n < 0xDC00

def isLowSurrogate (n : Nat) : Bool := 0xDC00 ≤ n && n < 0xE000

/-- The characters of a string's pieces; none if a surrogate has no partner. -/
def characters : List Piece → Option (List Char)
  | [] => some []
  | .char c :: ps => (characters ps).map (c :: ·)
  | .unit n :: ps =>
    if isHighSurrogate n then
      match ps with
      | .unit m :: ps =>
        if isLowSurrogate m then
          (characters ps).map (Char.ofNat (0x10000 + (n - 0xD800) * 0x400 + (m - 0xDC00)) :: ·)
        else none
      | _ => none
    else if isLowSurrogate n then none
    else (characters ps).map (Char.ofNat n :: ·)

/-- Reads a string after its opening quote; without a value if a surrogate has no partner. -/
def stringBody (s : List Char) : Option (Option String × List Char) := do
  let (ps, r) ← pieces s.length s
  some ((characters ps).map String.ofList, r)

/-- Splits off the digits at the front. -/
def digits (s : List Char) : List Char × List Char := s.span Text.isDigit

/-- An exponent's sign and digits. -/
def exponent (s : List Char) : Option (Option Int × List Char) :=
  match s with
  | c :: r =>
    if c = 'e' || c = 'E' then
      let (negative, r) := match r with
        | '-' :: r => (true, r)
        | '+' :: r => (false, r)
        | r => (false, r)
      let (ds, r) := digits r
      if ds = [] then none
      else
        let n : Int := Text.digitsValue ds
        some (some (if negative then -n else n), r)
    else some (none, s)
  | [] => some (none, s)

/-- A fraction's digits. -/
def fraction (s : List Char) : Option (Option (List Char) × List Char) :=
  match s with
  | '.' :: r =>
    let (ds, r) := digits r
    if ds = [] then none else some (some ds, r)
  | _ => some (none, s)

/-- Whether digits scaled by a power of ten lie beyond the largest binary64 float, with half a unit
in its last place added. -/
def overflows (digits : List Char) (power : Int) : Bool :=
  let significand := Text.digitsValue digits
  let ds := (Nat.toDigits 10 significand).length
  if significand = 0 then false
  else if ds + power ≤ 308 then false
  else if ds + power > 309 then true
  else
    let limit := 1 <<< 1024 - 1 <<< 970
    if power ≥ 0 then decide (significand * Nat.pow 10 power.toNat ≥ limit)
    else decide (significand ≥ limit * Nat.pow 10 (-power).toNat)

/-- A number's value: an integer of 64 bits, some other number, or none if it is too large. -/
def numberValue (negative : Bool) (whole : List Char) (frac : Option (List Char))
    (exp : Option Int) : Data :=
  let all := whole ++ frac.getD []
  let power := exp.getD 0 - (frac.getD []).length
  let n := Text.digitsValue whole
  if frac = none ∧ exp = none ∧ !negative ∧ n < 0x10000000000000000 then .int n
  else if frac = none ∧ exp = none ∧ negative ∧ 0 < n ∧ n ≤ 0x8000000000000000 then .int (-n)
  else if overflows all power then .unreadable
  else .real

/-- Reads a number; only the number zero starts with the digit zero. -/
def number (s : List Char) : Option (Data × List Char) := do
  let (negative, s) := match s with
    | '-' :: r => (true, r)
    | _ => (false, s)
  let (whole, r) := digits s
  if whole = [] || (whole.head? = some '0' && whole.length > 1) then none
  else
    let (frac, r) ← fraction r
    let (exp, r) ← exponent r
    some (numberValue negative whole frac exp, r)

/-- An object's value: none if a name has none. -/
def objectOf (members : List (Option String × Data)) : Data :=
  match members.mapM fun (name, d) => name.map (·, d) with
  | some ms => .object ms
  | none => .unreadable

/-- Reads a member's name and the colon behind it. -/
def memberName (s : List Char) : Option (Option String × List Char) :=
  match skipSpace s with
  | '"' :: r => do
    let (name, r) ← stringBody r
    match skipSpace r with
    | ':' :: r => some (name, r)
    | _ => none
  | _ => none

mutual

/-- Reads a value; the fuel bounds the nesting and the number of items. -/
def value : Nat → List Char → Option (Data × List Char)
  | 0, _ => none
  | fuel + 1, s =>
    match skipSpace s with
    | 'n' :: 'u' :: 'l' :: 'l' :: r => some (.null, r)
    | 't' :: 'r' :: 'u' :: 'e' :: r => some (.bool true, r)
    | 'f' :: 'a' :: 'l' :: 's' :: 'e' :: r => some (.bool false, r)
    | '"' :: r => do
      let (s, r) ← stringBody r
      some (match s with
        | some s => .text s
        | none => .unreadable, r)
    | '[' :: r =>
      match skipSpace r with
      | ']' :: r => some (.list [], r)
      | r => do
        let (items, r) ← items fuel r
        some (.list items, r)
    | '\x7b' :: r =>
      match skipSpace r with
      | '\x7d' :: r => some (.object [], r)
      | r => do
        let (members, r) ← members fuel r
        some (objectOf members, r)
    | s => number s

/-- Reads items up to the closing bracket. -/
def items : Nat → List Char → Option (List Data × List Char)
  | 0, _ => none
  | fuel + 1, s => do
    let (d, r) ← value fuel s
    match skipSpace r with
    | ',' :: r => do
      let (ds, r) ← items fuel r
      some (d :: ds, r)
    | ']' :: r => some ([d], r)
    | _ => none

/-- Reads members up to the closing brace. -/
def members : Nat → List Char → Option (List (Option String × Data) × List Char)
  | 0, _ => none
  | fuel + 1, s => do
    let (name, r) ← memberName s
    let (d, r) ← value fuel r
    match skipSpace r with
    | ',' :: r => do
      let (ms, r) ← members fuel r
      some ((name, d) :: ms, r)
    | '\x7d' :: r => some ([(name, d)], r)
    | _ => none

end

/-- Reads a text that holds one value and nothing else. -/
def read? (s : String) : Option Data := do
  let (d, r) ← value (2 * s.toList.length + 2) s.toList
  if skipSpace r = [] then some d else none

end Confine.Json
