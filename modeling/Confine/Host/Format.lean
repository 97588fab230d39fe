import Confine.Host.Octets

/-!
Formats with directives that are filled in from a list of arguments, and the escape sequences in
them. A format is used again as long as arguments are left.
-/

namespace Confine.Host

namespace Format

/-- The number that octal digits stand for. -/
def octal (ds : List Char) : Nat := ds.foldl (fun n d => n * 8 + (d.toNat - 48)) 0

def isOctal (c : Char) : Bool := '0' ≤ c && c ≤ '7'

/-- At most `n` octal digits at the front of a text. -/
def octalDigits (n : Nat) (cs : List Char) : List Char := (cs.take n).takeWhile isOctal

/-- The character of an escape sequence behind its backslash, and the text behind it. With `zero` a
zero may stand before three octal digits. -/
def escape? (zero : Bool) : List Char → Option (Char × List Char)
  | [] => none
  | c :: cs =>
    if isOctal c then
      let ds := if zero && c = '0' then octalDigits 3 cs else octalDigits 3 (c :: cs)
      let rest := if zero && c = '0' then cs.drop ds.length else (c :: cs).drop ds.length
      some (Char.ofNat (octal ds % 256), rest)
    else
      (List.lookup c [('a', '\x07'), ('b', '\x08'), ('f', '\x0c'), ('n', '\n'), ('r', '\r'),
        ('t', '\t'), ('v', '\x0b'), ('e', '\x1b'), ('\\', '\\')]).map (·, cs)

/-- Replaces escape sequences; the flag tells whether one of them ends all output. -/
def unescape (zero : Bool) : Nat → List Char → List Char × Bool
  | 0, cs => (cs, false)
  | _, [] => ([], false)
  | n + 1, '\\' :: cs =>
    match cs with
    | 'c' :: _ => ([], true)
    | _ =>
      match escape? zero cs with
      | some (c, rest) =>
        let (out, stop) := unescape zero n rest
        (c :: out, stop)
      | none =>
        let (out, stop) := unescape zero n cs
        ('\\' :: out, stop)
  | n + 1, c :: cs =>
    let (out, stop) := unescape zero n cs
    (c :: out, stop)

/-- Replaces all escape sequences of a text. -/
def unescapeAll (zero : Bool) (cs : List Char) : List Char × Bool :=
  unescape zero (cs.length + 1) cs

/-- What is wrong with an argument. -/
inductive Fault where
  | notNumeric (text : String)
  | trailing (text : String)
  | outOfRange (text : String)
  | badDirective (text : String)
  /-- A directive has no end. -/
  | endless (text : String)
deriving DecidableEq

/-- Output in the making. -/
structure Progress where
  args : List String
  /-- The output so far, the newest character first. -/
  out : List Char := []
  /-- Whether an argument was asked for. -/
  asked : Bool := false
  faults : List Fault := []
  stopped : Bool := false

structure Directive where
  left : Bool := false
  zero : Bool := false
  plus : Bool := false
  blank : Bool := false
  alternate : Bool := false
  width : Nat := 0
  precision : Option Nat := none

namespace Directive

def setFlag (d : Directive) : Char → Option Directive
  | '-' => some { d with left := true }
  | '0' => some { d with zero := true }
  | '+' => some { d with plus := true }
  | ' ' => some { d with blank := true }
  | '#' => some { d with alternate := true }
  | _ => none

/-- Fills a text up to the width. -/
def pad (d : Directive) (cs : List Char) : List Char :=
  let fill := List.replicate (d.width - cs.length) ' '
  if d.left then cs ++ fill else fill ++ cs

/-- A number with its sign or mark in front, filled up with blanks or zeros. -/
def padNumber (d : Directive) (mark digits : List Char) : List Char :=
  let digits := match d.precision with
    | some p => List.replicate (p - digits.length) '0' ++ digits
    | none => digits
  if d.zero && !d.left && d.precision.isNone then
    mark ++ List.replicate (d.width - mark.length - digits.length) '0' ++ digits
  else d.pad (mark ++ digits)

/-- Cuts a text to the precision. -/
def cut (d : Directive) (cs : List Char) : List Char :=
  match d.precision with
  | some p => cs.take p
  | none => cs

end Directive

/-- Takes the next argument; a missing one is empty. -/
def Progress.next (p : Progress) : String × Progress :=
  match p.args with
  | a :: rest => (a, { p with args := rest, asked := true })
  | [] => ("", { p with asked := true })

def Progress.emit (p : Progress) (cs : List Char) : Progress :=
  { p with out := cs.reverse ++ p.out }

/-- The digits of a base in small letters. -/
def digitsOf (base n : Nat) : List Char := Nat.toDigits base n

/-- The number at the front of an argument and the text behind it: decimal, octal or hexadecimal. -/
def leadingNumber (cs : List Char) : Option (Nat × List Char) :=
  let take (base : Nat) (isDigit : Char → Bool) (cs : List Char) : Option (Nat × List Char) :=
    let ds := cs.takeWhile isDigit
    let value (c : Char) : Nat :=
      if c.isDigit then c.toNat - 48 else c.toLower.toNat - 87
    if ds = [] then none
    else some (ds.foldl (fun n c => n * base + value c) 0, cs.drop ds.length)
  match cs with
  | '0' :: x :: rest =>
    if x = 'x' || x = 'X' then
      let isHex (c : Char) : Bool :=
        c.isDigit || ('a' ≤ c && c ≤ 'f') || ('A' ≤ c && c ≤ 'F')
      (take 16 isHex rest).or (some (0, x :: rest))
    else take 8 isOctal cs
  | _ => take 10 Char.isDigit cs

/-- The value of an argument as an integer. A quote in front gives the number of the character
behind it. -/
def integer (signed : Bool) (p : Progress) (arg : String) : Int × Progress :=
  match arg.toList with
  | [] => (0, p)
  | '\'' :: c :: _ | '\x22' :: c :: _ => (c.toNat, p)
  | cs =>
    let cs := cs.dropWhile (· = ' ')
    let (negative, digits) := match cs with
      | '-' :: rest => (true, rest)
      | '+' :: rest => (false, rest)
      | _ => (false, cs)
    match leadingNumber digits with
    | none => (0, { p with faults := p.faults ++ [.notNumeric arg] })
    | some (n, rest) =>
      let v : Int := if negative then -(n : Int) else n
      let least : Int := if signed then -0x8000000000000000 else -0xffffffffffffffff
      let most : Int := if signed then 0x7fffffffffffffff else 0xffffffffffffffff
      let within := max least (min most v)
      if v ≠ within then (within, { p with faults := p.faults ++ [.outOfRange arg] })
      else (v, if rest = [] then p else { p with faults := p.faults ++ [.trailing arg] })

/-- Writes one argument as a directive says. -/
def fill (d : Directive) (conversion : Char) (p : Progress) : Progress :=
  let (arg, p) := p.next
  match conversion with
  | 's' => p.emit (d.pad (d.cut arg.toList))
  | 'c' => p.emit (d.pad (arg.toList.take 1))
  | 'b' =>
    let (text, stop) := unescapeAll true arg.toList
    { p.emit (d.pad (d.cut text)) with stopped := stop }
  | _ =>
    let signed := conversion = 'd' || conversion = 'i'
    let (v, p) := integer signed p arg
    if signed then
      let mark := if v < 0 then ['-'] else if d.plus then ['+'] else if d.blank then [' '] else []
      p.emit (d.padNumber mark (digitsOf 10 v.natAbs))
    else
      let n := (v % 0x10000000000000000).toNat
      match conversion with
      | 'o' => p.emit (d.padNumber (if d.alternate && n ≠ 0 then ['0'] else []) (digitsOf 8 n))
      | 'x' =>
        p.emit (d.padNumber (if d.alternate && n ≠ 0 then ['0', 'x'] else []) (digitsOf 16 n))
      | 'X' =>
        p.emit (d.padNumber (if d.alternate && n ≠ 0 then ['0', 'X'] else [])
          ((digitsOf 16 n).map Char.toUpper))
      | _ => p.emit (d.padNumber [] (digitsOf 10 n))

def conversions : List Char := "scbdiuoxX".toList

/-- Reads flags in front of a directive's width. -/
def flags (d : Directive) : List Char → Directive × List Char
  | [] => (d, [])
  | c :: cs =>
    match d.setFlag c with
    | some d => flags d cs
    | none => (d, c :: cs)

/-- Reads a number of a directive, which may be taken from the arguments. -/
def amount (p : Progress) (cs : List Char) : Option Int × Progress × List Char :=
  match cs with
  | '*' :: rest =>
    let (arg, p) := p.next
    let (v, p) := integer true p arg
    (some v, p, rest)
  | _ =>
    let ds := cs.takeWhile Char.isDigit
    ((Octets.digits? (String.ofList ds)).map Int.ofNat, p, cs.drop ds.length)

/-- Carries out a directive behind its percent sign. -/
def directive (cs : List Char) (p : Progress) : Progress × List Char :=
  let (d, rest) := flags {} cs
  let (width, p, rest) := amount p rest
  let d := match width with
    | some w => { d with width := w.natAbs, left := d.left || w < 0 }
    | none => d
  let (d, p, rest) := match rest with
    | '.' :: rest =>
      let (precision, p, rest) := amount p rest
      ({ d with precision := some ((precision.getD 0).toNat) }, p, rest)
    | _ => (d, p, rest)
  match rest with
  | '%' :: rest => (p.emit ['%'], rest)
  | c :: rest =>
    if conversions.contains c then (fill d c p, rest)
    else
      let text := '%' :: cs.take (cs.length - rest.length)
      ({ p with faults := p.faults ++ [.badDirective (String.ofList text)], stopped := true }, [])
  | [] =>
    ({ p with faults := p.faults ++ [.endless (String.ofList ('%' :: cs))], stopped := true }, [])

/-- Goes through a format once. -/
def pass : Nat → List Char → Progress → Progress
  | 0, _, p => p
  | _, [], p => p
  | n + 1, c :: cs, p =>
    if p.stopped then p
    else
      match c with
      | '%' =>
        let (p, rest) := directive cs p
        pass n rest p
      | '\\' =>
        match cs with
        | 'c' :: _ => { p with stopped := true }
        | _ =>
          match escape? false cs with
          | some (c, rest) => pass n rest (p.emit [c])
          | none => pass n cs (p.emit ['\\'])
      | _ => pass n cs (p.emit [c])

/-- Goes through a format until no arguments are left. The bound is their number. -/
def passes (format : List Char) : Nat → Progress → Progress
  | 0, p => p
  | n + 1, p =>
    let p := pass (format.length + 1) format { p with asked := false }
    if p.stopped || !p.asked || p.args.isEmpty then p else passes format n p

/-- The output of a format with arguments, and what was wrong with these. -/
def apply (format : String) (args : List String) : String × List Fault :=
  let p := passes format.toList (args.length + 1) { args }
  (String.ofList p.out.reverse, p.faults)

end Format

end Confine.Host
