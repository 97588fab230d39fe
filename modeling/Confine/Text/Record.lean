/-!
The written form of named values in diagnostics: `Name(a, b)` and `Name \x7b a: x, b: y \x7d`.
-/

namespace Confine.Text

/-- A constructor applied to its arguments. -/
def applied (name : String) (arguments : List String) : String :=
  name ++ "(" ++ ", ".intercalate arguments ++ ")"

/-- A constructor with named fields. -/
def record (name : String) (fields : List (String × String)) : String :=
  name ++ " \x7b " ++ ", ".intercalate (fields.map fun (label, value) => label ++ ": " ++ value) ++
    " \x7d"

end Confine.Text
