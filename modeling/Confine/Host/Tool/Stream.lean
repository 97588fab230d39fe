import Confine.Host.Tool.Options
import Confine.Host.Tool.Regex

/-!
The programs that send their inputs through a filter.
-/

namespace Confine.Host

namespace Tool

/-- The inputs that operands name; without operands, standard input. -/
def inputsOf (operands : List String) : List String := if operands.isEmpty then ["-"] else operands

/-- A number with a suffix for its unit. -/
def amount? (s : String) : Option Nat :=
  let cs := s.toList
  let ds := cs.takeWhile Char.isDigit
  let unit := List.lookup (String.ofList (cs.drop ds.length))
    [("", 1), ("b", 512), ("k", 1024), ("K", 1024), ("KiB", 1024), ("kB", 1000), ("KB", 1000),
      ("M", 1048576), ("MiB", 1048576), ("MB", 1000000), ("G", 1073741824)]
  match Octets.digits? (String.ofList ds), unit with
  | some n, some u => some (n * u)
  | _, _ => none

def cat (who : String) (args : List String) : Tool :=
  withOptions who "nu" "" 1 args fun o =>
    let numbered : LineRule :=
      { select := fun _ n line => some [Octets.padLeft 6 (toString n) ++ "\t" ++ line] }
    let filter := if o.has 'n' then Filter.lines numbered {} else .copy
    .streaming { wording := .plain who, filter, inputs := inputsOf o.operands }

/-- The wording of programs that show the beginning or the end of files. -/
def excerptWording (program : String) : Wording where
  cannotOpen path reason := program ++ ": cannot open " ++ named path ++ " for reading: " ++ reason
  cannotRead path reason := program ++ ": error reading " ++ named path ++ ": " ++ reason
  cannotWrite reason := program ++ ": error writing 'standard output': " ++ reason

/-- The number of lines that an old option such as `-5` asks for, as a new option. -/
def modernCount (args : List String) : List String :=
  match args with
  | first :: rest =>
    match first.toList with
    | '-' :: ds =>
      if (Octets.digits? (String.ofList ds)).isSome then "-n" :: String.ofList ds :: rest else args
    | _ => args
  | [] => []

/-- A count of bytes or lines with its sign. -/
def signedAmount (text : String) : Option Char × String :=
  match text.toList with
  | '+' :: cs => (some '+', String.ofList cs)
  | '-' :: cs => (some '-', String.ofList cs)
  | _ => (none, text)

/-- The message about a count that is none. -/
def badCount (who : String) (inBytes : Bool) (text : String) : Tool :=
  failing (who ++ ": invalid number of " ++ (if inBytes then "bytes" else "lines") ++ ": " ++
    named text) 1

/-- Bytes without so many bytes or lines at their end. -/
def withoutLast (inBytes : Bool) (n : Nat) (b : Bytes) : Bytes :=
  if inBytes then b.take (b.length - n)
  else
    let (complete, rest) := Filter.splitLines b
    let pieces := complete.map (· ++ [Filter.newline]) ++ (if rest.isEmpty then [] else [rest])
    (pieces.take (pieces.length - n)).flatten

def head (who : String) (args : List String) : Tool :=
  withOptions who "qv" "cn" 1 (modernCount args) fun o =>
    let inBytes := (o.value? 'c').isSome
    let (sign, text) := signedAmount ((o.value? 'c').getD ((o.value? 'n').getD "10"))
    match amount? text with
    | none => badCount who inBytes text
    | some n =>
      let titled := (o.operands.length > 1 || o.has 'v') && !o.has 'q'
      let filter :=
        if sign = some '-' then
          Filter.whole (fun files => files.flatMap fun (_, b) => withoutLast inBytes n b) [] []
        else .limit inBytes n n titled 0
      .streaming { wording := excerptWording who, filter, inputs := inputsOf o.operands }

/-- The last lines of bytes. -/
def lastLines (n : Nat) (b : Bytes) : Bytes :=
  let (complete, rest) := Filter.splitLines b
  let pieces := complete.map (· ++ [Filter.newline]) ++ (if rest.isEmpty then [] else [rest])
  (pieces.drop (pieces.length - n)).flatten

def tail (who : String) (args : List String) : Tool :=
  withOptions who "q" "cn" 1 (modernCount args) fun o =>
    let inBytes := (o.value? 'c').isSome
    let text := (o.value? 'c').getD ((o.value? 'n').getD "10")
    let (sign, text) := signedAmount text
    let fromStart := sign = some '+'
    match amount? text with
    | none => badCount who inBytes text
    | some n =>
      let cut (b : Bytes) : Bytes :=
        if fromStart then
          if inBytes then b.drop (n - 1) else b.drop (Filter.takeLines (n - 1) b).length
        else if inBytes then b.drop (b.length - n)
        else lastLines n b
      .streaming
        { wording := excerptWording who, inputs := inputsOf o.operands
          filter := .whole (fun files => files.flatMap fun (_, b) => cut b) [] [] }

/-- The numbers of lines, words and bytes. -/
def counts (b : Bytes) : Nat × Nat × Nat :=
  let isBlank (x : UInt8) : Bool := x = 32 || (9 ≤ x && x ≤ 13)
  let (words, _) := b.foldl (fun (n, inWord) x =>
    if isBlank x then (n, false) else (if inWord then n else n + 1, true)) (0, false)
  (b.count Filter.newline, words, b.length)

def wc (who : String) (args : List String) : Tool :=
  withOptions who "clwm" "" 1 args fun o =>
    let all := o.flags.isEmpty
    let wanted (c : Nat × Nat × Nat) : List Nat :=
      (if all || o.has 'l' then [c.1] else []) ++ (if all || o.has 'w' then [c.2.1] else []) ++
        (if o.has 'm' then [c.2.2] else []) ++ (if all || o.has 'c' then [c.2.2] else [])
    let finish (files : List (String × Bytes)) : Bytes :=
      let rows := files.map fun (name, b) => (name, counts b)
      let total := rows.foldl (fun t (_, c) => (t.1 + c.1, t.2.1 + c.2.1, t.2.2 + c.2.2)) (0, 0, 0)
      let width :=
        if files.length ≤ 1 && (wanted total).length ≤ 1 then 1
        else if files.any fun (name, _) => name = "-" then 7
        else (toString total.2.2).length
      let row (name : String) (c : Nat × Nat × Nat) : String :=
        " ".intercalate ((wanted c).map fun n => Octets.padLeft width (toString n)) ++
          (if o.operands.isEmpty then "" else " " ++ name) ++ "\n"
      Octets.toBytes (String.join (rows.map fun (name, c) => row name c) ++
        (if files.length > 1 then row "total" total else ""))
    .streaming
      { wording := .plain who, filter := .whole finish [] [], inputs := inputsOf o.operands }

def tee (who : String) (args : List String) : Tool :=
  withOptions who "ai" "" 1 args fun o =>
    let mode : OpenMode := if o.has 'a' then .appending else .writing
    .streaming
      { wording := .plain who, filter := .copy, inputs := ["-"]
        copyPaths := o.operands.map (·, mode) }

def tr (who : String) (args : List String) : Tool :=
  withOptions who "cCds" "" 1 args fun o =>
    let complemented := o.has 'c' || o.has 'C'
    let go (first : String) (second : Option String) : Tool :=
      .streaming
        { wording := .plain who, inputs := ["-"]
          filter := .replace (.ofSets complemented (o.has 'd') (o.has 's') first second) none }
    match o.operands with
    | [] => failing (who ++ ": missing operand" ++ hint who) 1
    | [first] =>
      if o.has 'd' || o.has 's' then go first none
      else
        failing (who ++ ": missing operand after " ++ named first ++
          "\nTwo strings must be given when translating." ++ hint who) 1
    | [first, second] => go first (some second)
    | _ :: _ :: extra :: _ => failing (who ++ ": extra operand " ++ named extra ++ hint who) 1

/-- Where the program that searches lines says that more can be read about it. -/
def searchHint : String :=
  "Usage: grep [OPTION]... PATTERNS [FILE]...\nTry 'grep --help' for more information."

/-- What is written for a line that was selected, and for an input, by the options given. -/
def searchRule (o : Options) (search : Regex.Search) (titled : Bool) : LineRule :=
  let quiet := o.has 'q'
  let listing := o.has 'l'
  let shown := !quiet && !listing && !o.has 'c'
  let title (input : String) : String := if titled then input ++ ":" else ""
  { select := fun input n line =>
      if search.found line.toList = o.has 'v' then none
      else if !shown then some []
      else
        let front := title input ++ (if o.has 'n' then toString n ++ ":" else "")
        if o.has 'o' then
          some (if o.has 'v' then []
            else (search.matchesFrom none 0 line.toList).map fun m => front ++ String.ofList m)
        else some [front ++ line]
    summary := fun input n =>
      if quiet then []
      else if listing then if n > 0 then [input] else []
      else if o.has 'c' then [title input ++ toString n]
      else []
    bound := if quiet || listing then some 1 else (o.value? 'm').bind Octets.digits?
    apart := true
    judged := true }

def grep (who : String) (args : List String) : Tool :=
  let o := Options.parse "EFGHachilnoqsvwx".toList "em".toList {} args
  let patterns := (o.values.filter fun (c, _) => c = 'e').map (·.2)
  let (patterns, files) :=
    if patterns.isEmpty then (o.operands.take 1, o.operands.drop 1) else (patterns, o.operands)
  match o.fault with
  | some fault => failing (who ++ ": " ++ fault ++ "\n" ++ searchHint) 2
  | none =>
    if patterns.isEmpty then failing searchHint 2
    else
      let read (p : String) : Regex :=
        if o.has 'F' then .ofText p.toList else .parse (o.has 'E') p
      let extent : Regex.Extent :=
        if o.has 'x' then .lines else if o.has 'w' then .words else .anything
      let search : Regex.Search :=
        { alternatives := (patterns.flatMap fun p => p.splitOn "\n").map read
          ignoreCase := o.has 'i', extent }
      let titled := (files.length > 1 || o.has 'H') && !o.has 'h'
      .streaming
        { wording :=
            { Wording.plain who with
              failure := 2, standardInput := "(standard input)", silent := o.has 's' }
          inputs := inputsOf files
          filter := .lines (searchRule o search titled) {} }

/-- The lines of bytes as texts; the last one need not be complete. -/
def linesOf (b : Bytes) : List String :=
  let (complete, rest) := Filter.splitLines b
  (complete ++ (if rest.isEmpty then [] else [rest])).map Octets.ofBytes

/-- The number at the front of a text. -/
def leading (s : String) : Int :=
  let magnitude (cs : List Char) : Nat :=
    (Octets.digits? (String.ofList (cs.takeWhile Char.isDigit))).getD 0
  match s.toList.dropWhile (· = ' ') with
  | '-' :: cs => -(magnitude cs : Int)
  | cs => magnitude cs

/-- Drops lines that are the same as the one before. -/
def withoutRepeats : List String → List String
  | a :: b :: rest => if a = b then withoutRepeats (b :: rest) else a :: withoutRepeats (b :: rest)
  | rest => rest

def joinLines (ls : List String) : Bytes := Octets.toBytes (String.join (ls.map (· ++ "\n")))

def sort (who : String) (args : List String) : Tool :=
  withOptions who "nru" "" 2 args fun o =>
    let before (a b : String) : Bool :=
      if o.has 'n' then leading a < leading b || (leading a = leading b && a ≤ b) else a ≤ b
    let finish (files : List (String × Bytes)) : Bytes :=
      let sorted := (linesOf (files.flatMap (·.2))).mergeSort before
      let sorted := if o.has 'r' then sorted.reverse else sorted
      joinLines (if o.has 'u' then withoutRepeats sorted else sorted)
    let wording : Wording :=
      { Wording.plain who with
        cannotOpen := fun path reason => who ++ ": cannot read: " ++ path ++ ": " ++ reason
        failure := 2, strict := true }
    .streaming { wording, filter := .whole finish [] [], inputs := inputsOf o.operands }

/-- Runs of equal lines with their lengths. -/
def runs : List String → List (Nat × String)
  | [] => []
  | a :: rest =>
    match runs rest with
    | (n, b) :: more => if a = b then (n + 1, b) :: more else (1, a) :: (n, b) :: more
    | [] => [(1, a)]

def uniq (who : String) (args : List String) : Tool :=
  withOptions who "cdu" "" 1 args fun o =>
    let finish (files : List (String × Bytes)) : Bytes :=
      let kept := (runs (linesOf (files.flatMap (·.2)))).filter fun (n, _) =>
        (!o.has 'd' || n > 1) && (!o.has 'u' || n = 1)
      joinLines (kept.map fun (n, l) =>
        if o.has 'c' then Octets.padLeft 7 (toString n) ++ " " ++ l else l)
    .streaming
      { wording := .plain who, filter := .whole finish [] [], inputs := inputsOf o.operands }

/-- The ranges of a list such as `1,3-5`. -/
def cutRanges (s : String) : List (Nat × Option Nat) :=
  (s.splitOn ",").filterMap fun item =>
    match item.splitOn "-" with
    | [one] => (Octets.digits? one).map fun n => (n, some n)
    | [a, b] => some ((Octets.digits? a).getD 1, Octets.digits? b)
    | _ => none

def cut (who : String) (args : List String) : Tool :=
  withOptions who "s" "bcdf" 1 args fun o =>
    let inside (ranges : List (Nat × Option Nat)) (n : Nat) : Bool :=
      ranges.any fun (a, b) => a ≤ n && (b.all fun b => n ≤ b)
    let select (line : String) : Option (List String) :=
      match (o.value? 'b').or (o.value? 'c') with
      | some list =>
        let ranges := cutRanges list
        some [String.ofList ((line.toList.zipIdx 1).filterMap fun (c, i) =>
          if inside ranges i then some c else none)]
      | none =>
        let ranges := cutRanges ((o.value? 'f').getD "1")
        let separator := (o.value? 'd').getD "\t"
        let fields := line.splitOn separator
        if fields.length = 1 then if o.has 's' then none else some [line]
        else
          some [separator.intercalate ((fields.zipIdx 1).filterMap fun (f, i) =>
            if inside ranges i then some f else none)]
    if (o.values.filter fun (c, _) => c ≠ 'd').isEmpty then
      failing (who ++ ": you must specify a list of bytes, characters, or fields" ++ hint who) 1
    else
      .streaming
        { wording := .plain who, inputs := inputsOf o.operands
          filter := .lines { select := fun _ _ line => select line } {} }

/-- The value of an operand such as `bs=512`. -/
def operand? (args : List String) (key : String) : Option String :=
  args.findSome? fun a =>
    if a.startsWith (key ++ "=") then some (String.ofList (a.toList.drop (key.length + 1)))
    else none

/-- Copies blocks. Blocks that are skipped are read and thrown away. -/
def dd (who : String) (args : List String) : Tool :=
  let number (key : String) : Option Nat := (operand? args key).bind amount?
  let size := (number "bs").getD 512
  let skipped := (number "skip").getD 0 * size
  let filter : Filter :=
    if skipped > 0 then
      .whole (fun files =>
        let b := (files.flatMap (·.2)).drop skipped
        match number "count" with
        | some n => b.take (n * size)
        | none => b) [] []
    else
      match number "count" with
      | some n => .limit true (n * size) (n * size) false 0
      | none => .copy
  let wording : Wording :=
    { Wording.plain who with
      cannotOpen := fun path reason => who ++ ": failed to open " ++ named path ++ ": " ++ reason }
  .streaming
    { wording, filter, inputs := [(operand? args "if").getD "-"]
      target := operand? args "of" }

def yes (who : String) (args : List String) : Tool :=
  let line := Octets.toBytes ((if args.isEmpty then "y" else " ".intercalate args) ++ "\n")
  let copies := max 1 (8192 / line.length)
  .streaming
    { wording := { Wording.plain who with cannotWrite := (who ++ ": standard output: " ++ ·) }
      filter := .endless (List.replicate copies line).flatten }

end Tool

end Confine.Host
