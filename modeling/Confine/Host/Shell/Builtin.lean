import Confine.Host.Condition
import Confine.Host.Format
import Confine.Host.Shell.State

/-!
The commands that a shell carries out itself.
-/

namespace Confine.Host.Shell

namespace Builtin

/-- The builtins whose failures leave the shell running. -/
def regular : List String :=
  ["[", "alias", "cd", "command", "echo", "false", "hash", "jobs", "kill", "local", "printf", "pwd",
    "read", "test", "true", "type", "ulimit", "umask", "unalias", "wait"]

/-- Writes to standard output in the name of a command; its status tells whether that worked. -/
def print (sh : Shell) (who text : String) : Shell :=
  if text = "" then sh.setStatus 0
  else sh.push [.call (.write 1 (Octets.toBytes text)) (.written who)]

/-- Reports an error of a command. -/
def fail (sh : Shell) (who text : String) (status : Nat) : Shell :=
  sh.complain (who ++ ": " ++ text) status

/-- Reports an error of a special builtin, which ends the shell. -/
def failSpecial (sh : Shell) (who text : String) : Shell := sh.abort (who ++ ": " ++ text) 2

def echo (sh : Shell) (args : List String) : Shell :=
  let (newline, args) := match args with
    | "-n" :: rest => (false, rest)
    | _ => (true, args)
  let (text, stopped) := Format.unescapeAll true (" ".intercalate args).toList
  print sh "echo" (String.ofList text ++ (if newline && !stopped then "\n" else ""))

/-- What is wrong with an argument of a format. -/
def formatFault : Format.Fault → String
  | .notNumeric text => text ++ ": expected numeric value"
  | .trailing text => text ++ ": not completely converted"
  | .outOfRange text => text ++ ": Numerical result out of range"
  | .badDirective text => text ++ ": invalid directive"
  | .endless _ => "missing format character"

/-- The status that a fault of a format leaves behind. -/
def formatStatus : Format.Fault → Nat
  | .badDirective _ | .endless _ => 2
  | _ => 1

def printf (sh : Shell) (args : List String) : Shell :=
  match if args.head? = some "--" then args.drop 1 else args with
  | [] => fail sh "printf" "usage: printf format [arg ...]" 2
  | format :: args =>
    let (text, faults) := Format.apply format args
    let sh := match faults.getLast? with
      | some f => sh.push [.setStatus (formatStatus f)]
      | none => sh
    let sh := sh.push (faults.map fun f => sh.complaint ("printf: " ++ formatFault f))
    print sh "printf" text

def test (sh : Shell) (who : String) (args : List String) : Shell :=
  if who = "[" && args.getLast? ≠ some "]" then fail sh who "missing ]" 2
  else
    let args := if who = "[" then args.dropLast else args
    sh.push [.condition who args (Condition.paths args) []]

/-- A text in single quotes, and in double quotes where it has single ones itself. The bound is its
length. -/
def quoting : Nat → List Char → List Char
  | 0, cs => cs
  | n + 1, cs =>
    let plain := cs.takeWhile (· ≠ '\'')
    let rest := cs.drop plain.length
    let marks := rest.takeWhile (· = '\'')
    let rest := rest.drop marks.length
    let front := '\'' :: plain ++ ['\'']
    if marks.isEmpty then front
    else
      let front := front ++ '\x22' :: marks ++ ['\x22']
      if rest.isEmpty then front else front ++ quoting n rest

/-- A text that the shell reads as one word. -/
def inQuotes (s : String) : String := String.ofList (quoting (s.length + 1) s.toList)

/-- The number that a builtin was given, with a default. -/
def count? (args : List String) (default : Nat) : Option Nat :=
  match args with
  | [] => some default
  | a :: _ => Octets.digits? a

def exit (sh : Shell) (args : List String) : Shell :=
  match count? args sh.store.status with
  | some n => { sh with frames := [.leave n] }
  | none => failSpecial sh "exit" ("Illegal number: " ++ args.headD "")

def return_ (sh : Shell) (args : List String) : Shell :=
  match count? args sh.store.status with
  | some n => { sh.setStatus n with frames := unwindFunction sh.frames }
  | none => failSpecial sh "return" ("Illegal number: " ++ args.headD "")

def leaveLoop (sh : Shell) (again : Bool) (who : String) (args : List String) : Shell :=
  match count? args 1 with
  | some n =>
    let sh := sh.setStatus 0
    if sh.frames.any Frame.isLoop then { sh with frames := unwindLoop again n sh.frames } else sh
  | none => failSpecial sh who ("Illegal number: " ++ args.headD "")

def cd (sh : Shell) (args : List String) : Shell :=
  let args := args.filter fun a => a ≠ "-L" && a ≠ "-P" && a ≠ "--"
  let (target, shown) := match args with
    | [] => ((sh.store.value? "HOME").getD "", false)
    | "-" :: _ => ((sh.store.value? "OLDPWD").getD "", true)
    | dir :: _ => (dir, false)
  if target = "" then
    if shown then sh.push [.call .currentDir (.located true false)] else sh.setStatus 0
  else sh.push [.call (.changeDir target) (.moved target shown)]

/-- A name and what is assigned to it. -/
def splitAssignment (arg : String) : String × Option String :=
  let cs := arg.toList
  let name := cs.takeWhile (· ≠ '=')
  if name.length = cs.length then (arg, none)
  else (String.ofList name, some (String.ofList (cs.drop (name.length + 1))))

/-- The variables with a mark as lines that would set them, in ascending order of the names. -/
def listVariables (sh : Shell) (front : String) (marked : Variable → Bool) : String :=
  let chosen := (sh.store.vars.filter marked).mergeSort fun a b => a.name ≤ b.name
  String.join (chosen.map fun v =>
    front ++ v.name ++ (v.value.map fun value => "=" ++ inQuotes value).getD "" ++ "\n")

/-- Marks variables and assigns to them. -/
def declare (sh : Shell) (who : String) (mark : Store → String → Store) : List String → Shell
  | [] => sh.setStatus 0
  | arg :: rest =>
    let (name, value) := splitAssignment arg
    if !isName name.toList then failSpecial sh who (name ++ ": bad variable name")
    else
      match value with
      | some v =>
        if sh.store.isReadOnly name then failSpecial sh who (name ++ ": is read only")
        else declare { sh with store := mark (sh.store.set name v) name } who mark rest
      | none => declare { sh with store := mark sh.store name } who mark rest

/-- Notes a variable of a function, to be given back at its end. -/
def noteLocal (name : String) (old : Option Variable) : List Frame → List Frame
  | [] => []
  | .returned positional locals :: fs =>
    if locals.any fun (n, _) => n = name then .returned positional locals :: fs
    else .returned positional ((name, old) :: locals) :: fs
  | f :: fs => f :: noteLocal name old fs

def localVariables (sh : Shell) : List String → Shell
  | [] => sh.setStatus 0
  | arg :: rest =>
    let (name, value) := splitAssignment arg
    let frames := noteLocal name (sh.store.find? name) sh.frames
    let store := match value with
      | some v => sh.store.set name v
      | none => sh.store
    localVariables { sh with frames, store } rest

def unset (sh : Shell) (args : List String) : Shell :=
  match args with
  | "-f" :: names =>
    { sh.setStatus 0 with functions := sh.functions.filter fun (n, _) => !names.contains n }
  | _ =>
    let names := if args.head? = some "-v" then args.drop 1 else args
    match names.find? sh.store.isReadOnly with
    | some name => failSpecial sh "unset" (name ++ ": is read only")
    | none => { sh.setStatus 0 with store := names.foldl Store.unset { sh.store with status := 0 } }

def shift (sh : Shell) (args : List String) : Shell :=
  match count? args 1 with
  | none => failSpecial sh "shift" ("Illegal number: " ++ args.headD "")
  | some n =>
    if n > sh.store.positional.length then failSpecial sh "shift" "can't shift that many"
    else
      { sh with
        store := { sh.store with positional := sh.store.positional.drop n, status := 0 } }

/-- Switches options on or off by their letters. -/
def switch (on : Bool) (letters options : List Char) : List Char :=
  let others := options.filter fun c => !letters.contains c
  if on then others ++ letters else others

/-- The options by their long names. -/
def optionNames : List (String × Char) :=
  [("errexit", 'e'), ("noglob", 'f'), ("ignoreeof", 'I'), ("interactive", 'i'), ("monitor", 'm'),
    ("noexec", 'n'), ("stdin", 's'), ("xtrace", 'x'), ("verbose", 'v'), ("vi", 'V'),
    ("emacs", 'E'), ("noclobber", 'C'), ("allexport", 'a'), ("notify", 'b'), ("nounset", 'u')]

/-- The first letter that is no option. -/
def badLetter? (letters : List Char) : Option Char :=
  letters.find? fun c => !(optionNames.any fun (_, l) => l = c)

/-- Sets options, and positional parameters if any are given. -/
def setOptions (sh : Shell) : List String → Shell
  | [] => sh.setStatus 0
  | arg :: rest =>
    let put (ps : List String) : Shell :=
      { sh with store := { sh.store with positional := ps, status := 0 } }
    let choose (on : Bool) (letters : List Char) : Shell :=
      { sh with store := { sh.store with options := switch on letters sh.store.options } }
    match arg.toList with
    | ['-', '-'] => put rest
    | [sign, 'o'] =>
      if sign = '-' || sign = '+' then
        match rest with
        | [] => sh.setStatus 0
        | name :: rest =>
          match List.lookup name optionNames with
          | some letter => setOptions (choose (sign = '-') [letter]) rest
          | none => failSpecial sh "set" ("Illegal option " ++ arg ++ " " ++ name)
      else put (arg :: rest)
    | sign :: c :: cs =>
      if sign = '-' || sign = '+' then
        match badLetter? (c :: cs) with
        | some bad => failSpecial sh "set" ("Illegal option " ++ String.ofList [sign, bad])
        | none => setOptions (choose (sign = '-') (c :: cs)) rest
      else put (arg :: rest)
    | _ => put (arg :: rest)

def set (sh : Shell) (args : List String) : Shell :=
  if args.isEmpty then print sh "set" (listVariables sh "" fun v => v.value.isSome)
  else setOptions sh args

/-- The number of a signal or of the exit of the shell. -/
def trapNumber? (s : String) : Option Nat :=
  if s = "EXIT" || s = "exit" then some 0 else Signal.parse? s

/-- Puts an action in place for signals, or takes it away. -/
def setTraps (sh : Shell) (action : Option String) : List String → Shell
  | [] => sh
  | name :: rest =>
    match trapNumber? name with
    | none =>
      (setTraps sh action rest).push [toStderr ("trap: " ++ name ++ ": bad trap\n"), .setStatus 1]
    | some n =>
      let others := sh.traps.filter fun (m, _) => m ≠ n
      let (traps, disposition) := match action with
        | none => (others, Disposition.default)
        | some a => (others ++ [(n, a)], if a = "" then .ignored else .caught)
      let sh := setTraps { sh with traps } action rest
      if n = 0 then sh else sh.push [.call (.arrange n disposition) .ignore]

def trap (sh : Shell) (args : List String) : Shell :=
  match if args.head? = some "--" then args.drop 1 else args with
  | [] =>
    print sh "trap" (String.join (sh.traps.map fun (n, action) =>
      "trap -- " ++ inQuotes action ++ " " ++
        (if n = 0 then "EXIT" else (Signal.name? n).getD (toString n)) ++ "\n"))
  | [name] => (setTraps sh none [name]).setStatus 0
  | action :: names =>
    if action = "-" then (setTraps sh none names).setStatus 0
    else if (Octets.digits? action).isSome then (setTraps sh none (action :: names)).setStatus 0
    else (setTraps sh (some action) names).setStatus 0

/-- Sends a signal to processes. -/
def killAll (sh : Shell) (number : Nat) (targets : List String) : Shell :=
  match targets.find? fun t => (Octets.int? t).isNone with
  | some bad => fail sh "kill" ("Illegal number: " ++ bad) 2
  | none =>
    (sh.setStatus 0).push (targets.filterMap fun t =>
      (Octets.int? t).map fun n => .call (.signal n number) (.signalled "kill"))

def kill (sh : Shell) (args : List String) : Shell :=
  let usage := fail sh "kill"
    ("Usage: kill [-s sigspec | -signum | -sigspec] [pid | job]... or\nkill -l [exitstatus]") 2
  match args with
  | [] => usage
  | "-s" :: name :: targets =>
    match Signal.parse? name with
    | some n => killAll sh n (targets.filter (· ≠ "--"))
    | none => fail sh "kill" ("invalid signal number or name: " ++ name) 2
  | "-l" :: rest =>
    match rest with
    | [] =>
      print sh "kill" (String.join (Signal.table.map fun (name, _) => name ++ "\n"))
    | n :: _ =>
      if (Octets.digits? n).isNone then fail sh "kill" ("Illegal number: " ++ n) 2 else
      match (Octets.digits? n).bind fun k => Signal.name? (if k > 128 then k - 128 else k) with
      | some name => print sh "kill" (name ++ "\n")
      | none => fail sh "kill" ("invalid signal number or exit status: " ++ n) 2
  | "--" :: targets => killAll sh Signal.terminate targets
  | first :: targets =>
    match first.toList with
    | '-' :: name =>
      match Signal.parse? (String.ofList name) with
      | some n => if targets.isEmpty then usage else killAll sh n (targets.filter (· ≠ "--"))
      | none => fail sh "kill" ("Illegal option -" ++ String.ofList (name.take 1)) 2
    | _ => killAll sh Signal.terminate args

def wait (sh : Shell) (args : List String) : Shell :=
  match args with
  | [] => sh.push [.waitAll]
  | _ =>
    match args.find? fun a => (Octets.digits? a).isNone with
    | some bad => fail sh "wait" ("Illegal number: " ++ bad) 2
    | none => sh.push [.waitFor (args.filterMap Octets.digits?)]

/-- Options of a read: whether backslashes are kept, and a prompt. -/
def readOptions : Bool → Option String → List String → Bool × Option String × List String
  | _, prompt, "-r" :: rest => readOptions true prompt rest
  | raw, _, "-p" :: prompt :: rest => readOptions raw (some prompt) rest
  | raw, prompt, "--" :: rest => (raw, prompt, rest)
  | raw, prompt, rest => (raw, prompt, rest)

def read (sh : Shell) (args : List String) : Shell :=
  let (raw, prompt, names) := readOptions false none args
  match names with
  | [] => fail sh "read" "arg count" 2
  | _ =>
    match names.find? fun n => !isName n.toList with
    | some bad => fail sh "read" (bad ++ ": bad variable name") 2
    | none => sh.push ((prompt.toList.map toStderr) ++ [.readLine raw [] false names])

/-- The resources that can be bounded by letter, with the sizes of their units. -/
def boundLetters : List (Char × Resource × Nat) :=
  [('t', .cpuTime, 1), ('f', .fileSize, 512), ('d', .dataSize, 1024), ('s', .stackSize, 1024),
    ('c', .coreSize, 512), ('m', .residentSet, 1024), ('l', .lockedMemory, 1024),
    ('p', .processes, 1), ('n', .openFiles, 1), ('v', .addressSpace, 1024), ('w', .fileLocks, 1),
    ('r', .realtimePriority, 1)]

def ulimit (sh : Shell) (args : List String) : Shell :=
  let options := args.takeWhile fun a => a.startsWith "-" && a.length > 1
  let letters := options.flatMap fun a => a.toList.drop 1
  let hard := letters.contains 'H'
  let soft := letters.contains 'S'
  let wanted := (letters.filter fun c => c ≠ 'H' && c ≠ 'S').getLast?.getD 'f'
  match List.lookup wanted boundLetters with
  | none => fail sh "ulimit" ("Illegal option -" ++ String.ofList [wanted]) 2
  | some (r, unit) =>
    match args.drop options.length with
    | [] => sh.push [.call (.getBound r) (.boundShown (hard && !soft) unit)]
    | [value] =>
      let both := !hard && !soft
      if value = "unlimited" then
        sh.push [.call (.getBound r) (.boundKnown r (soft || both) (hard || both) none)]
      else
        match Octets.digits? value with
        | some n =>
          let after := After.boundKnown r (soft || both) (hard || both) (some (n * unit))
          sh.push [.call (.getBound r) after]
        | none => fail sh "ulimit" "bad number" 2
    | _ => fail sh "ulimit" "too many arguments" 2

/-- What a name stands for in the shell itself: a word of its language, a builtin or a function. -/
def kind? (sh : Shell) (name : String) : Option String :=
  if reservedWords.contains name then some "a shell keyword"
  else if sh.functions.any fun (n, _) => n = name then some "a shell function"
  else if specialBuiltins.contains name then some "a special shell builtin"
  else if regular.contains name then some "a shell builtin"
  else none

/-- What is done to tell what a name stands for. -/
def identify (sh : Shell) (wordy : Bool) (name : String) : Frame :=
  match kind? sh name with
  | some kind =>
    toOutput (if wordy then name ++ " is " ++ kind else name)
  | none => .locate wordy name (sh.searchPlaces name)

/-- Runs a command without looking at functions, or tells what a name stands for. -/
def command (sh : Shell) (args : List String) : Shell :=
  match args with
  | [] => sh.setStatus 0
  | "-v" :: name :: _ => (sh.setStatus 0).push [identify sh false name]
  | "-V" :: name :: _ => (sh.setStatus 0).push [identify sh true name]
  | "-p" :: rest => sh.push [.builtin rest]
  | _ => sh.push [.builtin args]

/-- Carries out a builtin; the frames are those under it. -/
def run (sh : Shell) (name : String) (args : List String) : Option Shell :=
  match name with
  | ":" | "true" | "times" | "hash" | "jobs" | "alias" | "unalias" => some (sh.setStatus 0)
  | "umask" => some (if args.isEmpty then print sh name "0022\n" else sh.setStatus 0)
  | "type" => some ((sh.setStatus 0).push (args.map (identify sh true)))
  | "false" => some (sh.setStatus 1)
  | "echo" => some (echo sh args)
  | "printf" => some (printf sh args)
  | "test" | "[" => some (test sh name args)
  | "exit" => some (exit sh args)
  | "return" => some (return_ sh args)
  | "break" => some (leaveLoop sh false name args)
  | "continue" => some (leaveLoop sh true name args)
  | "cd" => some (cd sh args)
  | "pwd" => some (sh.push [.call .currentDir (.located true false)])
  | "export" =>
    let names := args.filter (· ≠ "-p")
    some (if names.isEmpty then print sh name (listVariables sh "export " (·.exported))
      else declare sh name Store.markExported names)
  | "readonly" =>
    let names := args.filter (· ≠ "-p")
    some (if names.isEmpty then print sh name (listVariables sh "readonly " (·.readOnly))
      else declare sh name Store.markReadOnly names)
  | "local" => some (localVariables sh args)
  | "unset" => some (unset sh args)
  | "shift" => some (shift sh args)
  | "set" => some (set sh args)
  | "eval" =>
    let text := (" ".intercalate args).toList
    some ((sh.setStatus 0).push [.script text (text.count '\n') false])
  | "." =>
    match args with
    | path :: _ =>
      if !path.contains '/' then some (failSpecial sh name (path ++ ": not found"))
      else some (sh.push [.call (.openPath 99 path .reading) (.scriptOpened (some ".") path)])
    | [] => some (sh.setStatus 0)
  | "exec" =>
    match args with
    | [] => some (sh.setStatus 0)
    | _ => some (sh.push [.become (some "exec") args])
  | "command" => some (command sh args)
  | "trap" => some (trap sh args)
  | "kill" => some (kill sh args)
  | "wait" => some (wait sh args)
  | "read" => some (read sh args)
  | "ulimit" => some (ulimit sh args)
  | _ => none

end Builtin

end Confine.Host.Shell
