import Confine.Host.Tool.Options

/-!
Programs that make one call for each of their operands and report what did not work.
-/

namespace Confine.Host

namespace Errand

/-- An errand whose failure is reported with its reason; `excused` tells which are none. -/
def reporting (call : Call Empty) (message : String) (excused : OsError → Bool) : Errand where
  call
  report
    | .failed e =>
      if excused e then ([], 0) else ([(2, message ++ ": " ++ e.description ++ "\n")], 1)
    | _ => ([], 0)

/-- Lists a directory, or names a file. -/
def listing (who : String) (all header : Bool) (path : String) : Errand where
  call := .list path
  report
    | .names ns =>
      let shown := ns.filter fun n => all || !n.startsWith "."
      let title := if header then [(1, path ++ ":\n")] else []
      (title ++ shown.map fun n => (1, n ++ "\n"), 0)
    | .failed .notDirectory => ([(1, path ++ "\n")], 0)
    | .failed e =>
      ([(2, who ++ ": cannot access " ++ Tool.named path ++ ": " ++ e.description ++ "\n")], 2)
    | _ => ([], 0)

end Errand

namespace Tool

/-- Runs errands. -/
def errands (es : List Errand) : Tool := running [] es 0

/-- Fails if there are no operands. -/
def withOperands (who : String) (o : Options) (start : List String → Tool) : Tool :=
  if o.operands.isEmpty then failing (who ++ ": missing operand" ++ hint who) 1
  else start o.operands

def rm (who : String) (args : List String) : Tool :=
  withOptions who "dfirRv" "" 1 args fun o =>
    let force := o.has 'f'
    let tree := o.has 'r' || o.has 'R'
    if force && o.operands.isEmpty then exiting 0
    else
      withOperands who o fun paths =>
        errands (paths.map fun path =>
          .reporting (.remove path tree) (who ++ ": cannot remove " ++ named path)
            fun e => force && e = .noEntry)

def mkdir (who : String) (args : List String) : Tool :=
  withOptions who "pv" "m" 1 args fun o =>
    withOperands who o fun paths =>
      errands (paths.map fun path =>
        .reporting (.makeDir path) (who ++ ": cannot create directory " ++ named path)
          fun e => o.has 'p' && e = .alreadyThere)

def touch (who : String) (args : List String) : Tool :=
  withOptions who "acm" "dtr" 1 args fun o =>
    if o.operands.isEmpty then
      failing (who ++ ": missing file operand" ++ hint who) 1
    else
      errands (o.operands.flatMap fun path =>
        [.reporting (.openPath 3 path .both) (who ++ ": cannot touch " ++ named path)
          fun e => e = .isDirectory,
          ⟨.close 3, fun _ => ([], 0)⟩])

def ls (who : String) (args : List String) : Tool :=
  withOptions who "aA1" "" 2 args fun o =>
    let paths := if o.operands.isEmpty then ["."] else o.operands
    errands (paths.map (.listing who (o.has 'a' || o.has 'A') (paths.length > 1)))

end Tool

end Confine.Host
