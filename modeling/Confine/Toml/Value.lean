import Confine.Json.Parser
import Confine.Toml.Lexeme
import Confine.Toml.Table

/-!
Reading the values of a TOML text: strings, numbers, dates and times, lists and inline tables.
-/

namespace Confine.Toml

/-- Reads digits in a base with single underscores between them. -/
def digitsIn (base : Nat) : Nat → Chars → Option (List Nat × Chars)
  | 0, _ => none
  | fuel + 1, c :: r => do
    let n ← digitIn? base c
    match r with
    | '_' :: r => do
      let (ns, r) ← digitsIn base fuel r
      some (n :: ns, r)
    | d :: _ =>
      if (digitIn? base d).isSome then do
        let (ns, r) ← digitsIn base fuel r
        some (n :: ns, r)
      else some ([n], r)
    | [] => some ([n], [])
  | _, [] => none

/-- Reads digits in a base. -/
def digits? (base : Nat) (s : Chars) : Option (List Nat × Chars) := digitsIn base s.length s

def valueIn (base : Nat) (ns : List Nat) : Nat := ns.foldl (fun v n => base * v + n) 0

/-- An integer of 64 bits. -/
def int64? (i : Int) : Option Data :=
  if -0x8000000000000000 ≤ i ∧ i < 0x8000000000000000 then some (.int i) else none

/-- Reads an integer in another base after its mark. -/
def basedInt? (base : Nat) (s : Chars) : Option (Data × Chars) := do
  let (ns, r) ← digits? base s
  some (← int64? (valueIn base ns), r)

/-- Reads an optional sign: whether there is one and whether it is a minus. -/
def sign : Chars → Bool × Chars
  | '-' :: r => (true, r)
  | '+' :: r => (false, r)
  | s => (false, s)

/-- Reads the whole part of a number: a zero, or digits that start with another digit. -/
def wholePart? (s : Chars) : Option (List Nat × Chars) :=
  match s with
  | '0' :: r => some ([0], r)
  | _ => digits? 10 s

/-- The digits of a number as characters. -/
def digitChars (ns : List Nat) : Chars := ns.map Nat.digitChar

/-- Reads an exponent: none if there is none, a failure if it is malformed. -/
def exponent? (s : Chars) : Option (Option Int × Chars) :=
  match s with
  | c :: r =>
    if c = 'e' || c = 'E' then do
      let (negative, r) := sign r
      let (ns, r) ← digits? 10 r
      let n : Int := valueIn 10 ns
      some (some (if negative then -n else n), r)
    else some (none, s)
  | [] => some (none, [])

/-- Reads a fraction: none if there is none, a failure if it is malformed. -/
def fraction? (s : Chars) : Option (Option (List Nat) × Chars) :=
  match s with
  | '.' :: r => do
    let (ns, r) ← digits? 10 r
    some (some ns, r)
  | _ => some (none, s)

/-- Reads a decimal number; one above the range of binary64 floats is refused. -/
def decimal? (s : Chars) : Option (Data × Chars) := do
  let (negative, r) := sign s
  let (whole, r) ← wholePart? r
  let (frac, r) ← fraction? r
  let (exp, r) ← exponent? r
  if frac.isNone && exp.isNone then
    let n : Int := valueIn 10 whole
    some (← int64? (if negative then -n else n), r)
  else
    let digits := frac.getD []
    let power := exp.getD 0 - digits.length
    if !negative && Json.overflows (digitChars (whole ++ digits)) power then none
    else some (.real, r)

/-- Reads exactly so many decimal digits. -/
def fixedDigits : Nat → Nat → Chars → Option (Nat × Chars)
  | 0, n, s => some (n, s)
  | count + 1, n, c :: r =>
    if Text.isDigit c then fixedDigits count (10 * n + Text.digitValue c) r else none
  | _, _, [] => none

/-- Reads a two-digit number in a range. -/
def twoDigits? (low high : Nat) (s : Chars) : Option (Nat × Chars) := do
  let (n, r) ← fixedDigits 2 0 s
  if low ≤ n && n ≤ high then some (n, r) else none

/-- Reads one given character. -/
def expect? (c : Char) : Chars → Option Chars
  | d :: r => if c = d then some r else none
  | [] => none

def isLeapYear (year : Nat) : Bool := year % 4 = 0 && (year % 100 ≠ 0 || year % 400 = 0)

/-- The length of a month. -/
def daysIn (year month : Nat) : Nat :=
  if month = 2 then if isLeapYear year then 29 else 28
  else if month = 4 || month = 6 || month = 9 || month = 11 then 30
  else 31

/-- Reads a date. -/
def date? (s : Chars) : Option Chars := do
  let (year, r) ← fixedDigits 4 0 s
  let (month, r) ← twoDigits? 1 12 (← expect? '-' r)
  let (_, r) ← twoDigits? 1 (daysIn year month) (← expect? '-' r)
  some r

/-- Reads a time of the day, with a fraction of the second if there is one. -/
def time? (s : Chars) : Option Chars := do
  let (_, r) ← twoDigits? 0 23 s
  let (_, r) ← twoDigits? 0 59 (← expect? ':' r)
  let (_, r) ← twoDigits? 0 60 (← expect? ':' r)
  match r with
  | '.' :: c :: r => if Text.isDigit c then some (r.dropWhile Text.isDigit) else none
  | '.' :: [] => none
  | r => some r

/-- Reads an offset from universal time, if there is one. -/
def offset? : Chars → Option Chars
  | 'Z' :: r | 'z' :: r => some r
  | '+' :: r | '-' :: r => do
    let (_, r) ← twoDigits? 0 23 r
    let (_, r) ← twoDigits? 0 59 (← expect? ':' r)
    some r
  | s => some s

/-- Reads a date with or without a time, or a time. -/
def dateTime? (s : Chars) : Option Chars :=
  match date? s with
  | some r =>
    match r with
    | c :: t =>
      if c = 'T' || c = 't' || c = ' ' then
        match time? t with
        | some t => offset? t
        | none => some r
      else some r
    | [] => some []
  | none => time? s

/-- The value of a date or time: an object with its text under a name of its own. -/
def dateTimeData (s rest : Chars) : Data :=
  .object [("$__toml_private_datetime", .text (String.ofList (s.take (s.length - rest.length))))]

/-- Reads a number, a date or a time. -/
def scalar? (s : Chars) : Option (Data × Chars) :=
  match dateTime? s with
  | some r => some (dateTimeData s r, r)
  | none =>
    match s with
    | '0' :: 'x' :: r => basedInt? 16 r
    | '0' :: 'o' :: r => basedInt? 8 r
    | '0' :: 'b' :: r => basedInt? 2 r
    | _ =>
      match (sign s).2 with
      | 'i' :: 'n' :: 'f' :: r => some (.real, r)
      | 'n' :: 'a' :: 'n' :: r => some (.real, r)
      | _ => decimal? s

mutual

/-- Reads a value. The depth counts the lists and tables around it; the fuel bounds the nesting and
the number of items. -/
def value : Nat → Nat → Chars → Option (Data × Chars)
  | 0, _, _ => none
  | fuel + 1, depth, s =>
    match s with
    | '"' :: _ | '\'' :: _ => (string? s).map fun (cs, r) => (.text (String.ofList cs), r)
    | 't' :: 'r' :: 'u' :: 'e' :: r => some (.bool true, r)
    | 'f' :: 'a' :: 'l' :: 's' :: 'e' :: r => some (.bool false, r)
    | '[' :: r =>
      if depth + 1 < depthBound then do
        let (items, r) ← items fuel (depth + 1) (skipBlanks r)
        some (.list items, r)
      else none
    | '\x7b' :: r =>
      if depth + 1 < depthBound then
        match skipWhite r with
        | '\x7d' :: r => some (.object [], r)
        | r => do
          let (pairs, r) ← pairs fuel (depth + 1) r
          let ms ← Members.ofPairs pairs
          some (.object (membersData ms), r)
      else none
    | _ => scalar? s

/-- Reads items up to the closing bracket, a comma after the last one allowed. -/
def items : Nat → Nat → Chars → Option (List Data × Chars)
  | 0, _, _ => none
  | fuel + 1, depth, s =>
    match s with
    | ']' :: r => some ([], r)
    | _ => do
      let (d, r) ← value fuel depth s
      match skipBlanks r with
      | ',' :: r => do
        let (ds, r) ← items fuel depth (skipBlanks r)
        some (d :: ds, r)
      | ']' :: r => some ([d], r)
      | _ => none

/-- Reads keys with their values up to the closing brace. -/
def pairs : Nat → Nat → Chars → Option (List (List String × Data) × Chars)
  | 0, _, _ => none
  | fuel + 1, depth, s => do
    let (key, r) ← key? s
    let (d, r) ← value fuel depth (skipWhite (← expect? '=' r))
    match skipWhite r with
    | ',' :: r => do
      let (ps, r) ← pairs fuel depth r
      some ((key, d) :: ps, r)
    | '\x7d' :: r => some ([(key, d)], r)
    | _ => none

end

/-- Reads a value. -/
def value? (s : Chars) : Option (Data × Chars) := value (2 * s.length + 2) 0 s

end Confine.Toml
