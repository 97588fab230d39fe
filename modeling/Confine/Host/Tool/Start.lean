import Confine.Host.Condition
import Confine.Host.Format
import Confine.Host.Tool.Errand
import Confine.Host.Tool.Stream

/-!
How programs read their arguments.
-/

namespace Confine.Host

namespace Tool

/-- How a text is shown. -/
structure EchoStyle where
  newline : Bool := true
  escapes : Bool := false

/-- The style after the letters of an option. -/
def EchoStyle.letters (style : EchoStyle) (cs : List Char) : EchoStyle :=
  cs.foldl (fun s c =>
    match c with
    | 'n' => { s with newline := false }
    | 'e' => { s with escapes := true }
    | _ => { s with escapes := false }) style

/-- The text that arguments make in a style. -/
def EchoStyle.show (style : EchoStyle) (args : List String) : String :=
  let text := " ".intercalate args
  let (text, stopped) := if style.escapes then
      let (cs, stopped) := Format.unescapeAll true text.toList
      (String.ofList cs, stopped)
    else (text, false)
  text ++ (if style.newline && !stopped then "\n" else "")

/-- The text that is shown; options stand in front. -/
def echoText (style : EchoStyle) : List String → String
  | [] => style.show []
  | arg :: rest =>
    match arg.toList with
    | '-' :: c :: cs =>
      if (c :: cs).all "neE".toList.contains then echoText (style.letters (c :: cs)) rest
      else style.show (arg :: rest)
    | _ => style.show (arg :: rest)

/-- What is wrong with an argument of a format. -/
def formatFault : Format.Fault → String
  | .notNumeric text => named text ++ ": expected a numeric value"
  | .trailing text => named text ++ ": value not completely converted"
  | .outOfRange text => named text ++ ": Numerical result out of range"
  | .badDirective text | .endless text => text ++ ": invalid conversion specification"

def printf (who : String) (args : List String) : Tool :=
  match if args.head? = some "--" then args.drop 1 else args with
  | [] => failing (who ++ ": missing operand" ++ hint who) 1
  | format :: args =>
    let (text, faults) := Format.apply format args
    let complaints := faults.map fun f => (2, who ++ ": " ++ formatFault f ++ "\n")
    .running (complaints ++ (if text = "" then [] else [(1, text)])) []
      (if faults.isEmpty then 0 else 1)

/-- The ticks of a duration with an optional fraction and unit. -/
def duration? (s : String) : Option Nat :=
  let cs := s.toList
  let whole := cs.takeWhile Char.isDigit
  let rest := cs.drop whole.length
  let (fraction, rest) := match rest with
    | '.' :: more => (more.takeWhile Char.isDigit, more.dropWhile Char.isDigit)
    | _ => ([], rest)
  let units := [("", 1), ("s", 1), ("m", 60), ("h", 3600), ("d", 86400)]
  match List.lookup (String.ofList rest) units with
  | some u =>
    if whole.isEmpty && fraction.isEmpty then none
    else
      let digits (ds : List Char) : Nat := (Octets.digits? (String.ofList ds)).getD 0
      let ticks := 1000 * ticksPerMilli
      some (u * (digits whole * ticks + digits fraction * ticks / Nat.pow 10 fraction.length))
  | none => none

def sleep (who : String) (args : List String) : Tool :=
  match args.find? fun a => (duration? a).isNone with
  | some bad => failing (who ++ ": invalid time interval " ++ named bad ++ hint who) 1
  | none =>
    if args.isEmpty then failing (who ++ ": missing operand" ++ hint who) 1
    else .sleeping ((args.filterMap duration?).foldl (· + ·) 0)

/-- A binding as a line. -/
def bindingLine (b : String × String) : String := b.1 ++ "=" ++ b.2 ++ "\n"

/-- Gives a name a value in an environment: in place, or at the end. -/
def rebind (env : Bindings) (name value : String) : Bindings :=
  if env.any fun (n, _) => n = name then
    env.map fun (n, v) => if n = name then (n, value) else (n, v)
  else env ++ [(name, value)]

/-- Reads the arguments of a program that runs another one in a changed environment. -/
def env (who : String) (bindings : Bindings) : List String → Tool
  | [] => saying who (String.join (bindings.map bindingLine)) 0
  | "-i" :: rest | "-" :: rest | "--ignore-environment" :: rest => env who [] rest
  | "-u" :: name :: rest => env who (bindings.filter fun (n, _) => n ≠ name) rest
  | "--" :: rest => env who bindings rest
  | arg :: rest =>
    let name := arg.toList.takeWhile (· ≠ '=')
    if name.length < arg.length then
      let value := String.ofList (arg.toList.drop (name.length + 1))
      env who (rebind bindings (String.ofList name) value) rest
    else
      match arg.toList with
      | '-' :: '-' :: _ => failing (who ++ ": unrecognized option " ++ named arg ++ hint who) 125
      | '-' :: c :: _ =>
        failing (who ++ ": invalid option -- " ++ named (String.ofList [c]) ++ hint who) 125
      | _ => .launching who (arg :: rest) bindings

def printenv (who : String) (bindings : Bindings) (args : List String) : Tool :=
  if args.isEmpty then saying who (String.join (bindings.map bindingLine)) 0
  else
    let found := args.filterMap fun n => List.lookup n bindings
    saying who (String.join (found.map (· ++ "\n"))) (if found.length = args.length then 0 else 1)

/-- The numbers from one to another. -/
def steps : Nat → Int → Int → Int → List Int
  | 0, _, _, _ => []
  | n + 1, a, by_, b =>
    if (0 < by_ && a > b) || (by_ < 0 && a < b) then [] else a :: steps n (a + by_) by_ b

def seq (who : String) (args : List String) : Tool :=
  let (separator, args) := match args with
    | "-s" :: s :: rest => (s, rest)
    | _ => ("\n", args)
  let bad := args.find? fun a => (Octets.int? a).isNone
  match args.filterMap Octets.int?, bad, args with
  | _, some a, _ => failing (who ++ ": invalid floating point argument: " ++ named a ++ hint who) 1
  | _, _, _ :: _ :: _ :: extra :: _ =>
    failing (who ++ ": extra operand " ++ named extra ++ hint who) 1
  | [], _, _ => failing (who ++ ": missing operand" ++ hint who) 1
  | n :: ns, _, _ =>
    let (first, by_, last) := match ns with
      | [] => (1, 1, n)
      | [last] => (n, 1, last)
      | by_ :: last :: _ => (n, by_, last)
    if by_ = 0 then failing (who ++ ": invalid Zero increment value: '0'" ++ hint who) 1
    else
      let shown := steps ((last - first).natAbs / by_.natAbs + 1) first by_ last
      saying who
        (separator.intercalate (shown.map toString) ++ (if shown.isEmpty then "" else "\n")) 0

/-- The state in which a program starts. -/
def start (p : Program) (args : List String) (bindings : Bindings) : Tool :=
  let who := args.headD ""
  let args := args.drop 1
  match p with
  | .cat => cat who args
  | .cut => cut who args
  | .dd => dd who args
  | .echo => saying who (echoText {} args) 0
  | .env => env who bindings args
  | .exitWith status => .exiting status
  | .grep => grep who args
  | .head => head who args
  | .ls => ls who args
  | .mkdir => mkdir who args
  | .printenv => printenv who bindings args
  | .printf => printf who args
  | .pwd => withOptions who "LP" "" 1 args fun _ => .locating who
  | .rm => rm who args
  | .seq => seq who args
  | .sleep => sleep who args
  | .sort => sort who args
  | .tail => tail who args
  | .tee => tee who args
  | .touch => touch who args
  | .test => .asking who args (Condition.paths args) []
  | .bracket =>
    if args.getLast? = some "]" then
      .asking who args.dropLast (Condition.paths args.dropLast) []
    else failing (who ++ ": missing ']'") 2
  | .tr => tr who args
  | .uniq => uniq who args
  | .wc => wc who args
  | .yes => yes who args
  | .shell => .exiting 0

/-- The wording of what is wrong with a condition. -/
def conditionFault : Condition.Fault → String
  | .illegalNumber text => "invalid integer " ++ named text
  | .unexpectedOperator text => "extra argument " ++ named text
  | .missingArgument text => "missing argument after " ++ named text
  | .missingParenthesis => "')' expected"

/-- Goes on from the reply to a call. -/
def resume (t : Tool) (reply : Reply) : Tool :=
  match t with
  | streaming s => streaming (s.resume reply)
  | sleeping _ => exiting 0
  | launching who args _ =>
    let name := args.headD ""
    match reply with
    | .failed e =>
      let missing := e = .noEntry || e = .notDirectory || e = .nameTooLong
      failing (who ++ ": " ++ named name ++ ": " ++ e.description) (if missing then 127 else 126)
    | _ => t
  | running (_ :: texts) es status => running texts es status
  | running [] (e :: es) status =>
    let (texts, failure) := e.report reply
    running texts es (max status failure)
  | running [] [] status => exiting status
  | locating who =>
    match reply with
    | .text dir => saying who (dir ++ "\n") 0
    | _ => exiting 1
  | asking who args (path :: paths) known =>
    let node := match reply with
      | .node n => some n
      | _ => none
    asking who args paths (known ++ [(path, node)])
  | asking who args [] known =>
    match Condition.holds (fun path => (List.lookup path known).join) args with
    | .ok v => exiting (if v then 0 else 1)
    | .error fault => failing (who ++ ": " ++ conditionFault fault) 2
  | exiting status => exiting status

end Tool

end Confine.Host
