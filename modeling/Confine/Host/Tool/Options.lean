import Confine.Host.Tool.Basic

/-!
The options that programs are given.
-/

namespace Confine.Host

namespace Tool

/-- The text of a quoted name in a message. -/
def named (s : String) : String := "'" ++ s ++ "'"

/-- Where a program says that more can be read about it. -/
def hint (who : String) : String := "\nTry '" ++ who ++ " --help' for more information."

/-- The options of a program: letters, those with a value, and the operands. -/
structure Options where
  flags : List Char := []
  values : List (Char × String) := []
  operands : List String := []
  /-- What is wrong with the first option that the program does not have. -/
  fault : Option String := none

namespace Options

def has (o : Options) (c : Char) : Bool := o.flags.contains c

/-- The last value given to an option. -/
def value? (o : Options) (c : Char) : Option String := o.values.reverse.lookup c

/-- Notes what is wrong with an option. -/
def refuse (o : Options) (fault : String) : Options := { o with fault := o.fault.or (some fault) }

/-- Reads the letters of one argument; the flag tells that the last one still needs its value. -/
def letters (plain valued : List Char) (o : Options) : List Char → Options × Option Char
  | [] => (o, none)
  | c :: cs =>
    if valued.contains c then
      if cs = [] then (o, some c)
      else ({ o with values := o.values ++ [(c, String.ofList cs)] }, none)
    else if plain.contains c then letters plain valued { o with flags := o.flags ++ [c] } cs
    else (o.refuse ("invalid option -- " ++ named (String.ofList [c])), none)

/-- Reads arguments; options may also stand behind operands. -/
def parse (plain valued : List Char) (o : Options) : List String → Options
  | [] => o
  | "--" :: rest => { o with operands := o.operands ++ rest }
  | arg :: rest =>
    match arg.toList with
    | '-' :: '-' :: _ =>
      parse plain valued (o.refuse ("unrecognized option " ++ named arg)) rest
    | '-' :: c :: cs =>
      match letters plain valued o (c :: cs) with
      | (o, none) => parse plain valued o rest
      | (o, some c) =>
        match rest with
        | v :: rest => parse plain valued { o with values := o.values ++ [(c, v)] } rest
        | [] => o.refuse ("option requires an argument -- " ++ named (String.ofList [c]))
    | _ => parse plain valued { o with operands := o.operands ++ [arg] } rest

end Options

/-- Reads options and goes on with them unless there is something wrong with one. -/
def withOptions (who : String) (plain valued : String) (status : Nat) (args : List String)
    (start : Options → Tool) : Tool :=
  let o := Options.parse plain.toList valued.toList {} args
  match o.fault with
  | some fault => failing (who ++ ": " ++ fault ++ hint who) status
  | none => start o

end Tool

end Confine.Host
