/-!
Decimal numerals: reading with an optional plus sign and an upper bound, and writing.
-/

namespace Confine.Text

/-- An ASCII digit. -/
def isDigit (c : Char) : Bool := '0' ≤ c && c ≤ '9'

/-- The value of a digit. -/
def digitValue (c : Char) : Nat := c.toNat - '0'.toNat

/-- The value of a list of digits, the most significant first. -/
def digitsValue (s : List Char) : Nat := s.foldl (fun n c => 10 * n + digitValue c) 0

/-- Reads a non-empty list of digits as a number below the bound. -/
def readDigits? (bound : Nat) (s : List Char) : Option Nat :=
  if s ≠ [] ∧ s.all isDigit ∧ digitsValue s < bound then some (digitsValue s) else none

/-- Reads digits after an optional single plus sign. -/
def readNat? (bound : Nat) : List Char → Option Nat
  | '+' :: r => readDigits? bound r
  | s => readDigits? bound s

/-- The digits of a number without leading zeros. -/
def natText (n : Nat) : List Char := Nat.toDigits 10 n

/-- A number, with a minus sign if it is negative. -/
def intText : Int → List Char
  | .ofNat n => natText n
  | .negSucc n => '-' :: natText (n + 1)

end Confine.Text
