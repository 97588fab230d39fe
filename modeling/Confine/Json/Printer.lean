import Confine.Data.Basic
import Confine.Text.Decimal

/-!
Writing structured data as compact JSON text.
-/

namespace Confine.Json

/-- The lower-case hexadecimal digit of a number below 16. -/
def hexDigit (n : Nat) : Char := Nat.digitChar n

/-- How one character is written in a string. -/
def escape (c : Char) : List Char :=
  if c = '"' then ['\\', '"']
  else if c = '\\' then ['\\', '\\']
  else if c = '\x08' then ['\\', 'b']
  else if c = '\x0c' then ['\\', 'f']
  else if c = '\n' then ['\\', 'n']
  else if c = '\r' then ['\\', 'r']
  else if c = '\t' then ['\\', 't']
  else if c.toNat < 0x20 then
    ['\\', 'u', '0', '0', hexDigit (c.toNat / 16), hexDigit (c.toNat % 16)]
  else [c]

/-- A string between its quotes. -/
def string (s : String) : List Char := '"' :: s.toList.flatMap escape ++ ['"']

/-- Parts with commas between them. -/
def commaSeparated : List (List Char) → List Char
  | [] => []
  | [p] => p
  | p :: ps => p ++ ',' :: commaSeparated ps

mutual

/-- The compact text of a value; a number that is no integer, and what has no value, is `null`. -/
def print : Data → List Char
  | .null | .real | .unreadable => ['n', 'u', 'l', 'l']
  | .bool true => ['t', 'r', 'u', 'e']
  | .bool false => ['f', 'a', 'l', 's', 'e']
  | .int i => Text.intText i
  | .text s => string s
  | .list items => '[' :: commaSeparated (printItems items) ++ [']']
  | .object members => '\x7b' :: commaSeparated (printMembers members) ++ ['\x7d']

def printItems : List Data → List (List Char)
  | [] => []
  | d :: ds => print d :: printItems ds

def printMembers : List (String × Data) → List (List Char)
  | [] => []
  | m :: ms => printMember m :: printMembers ms

def printMember : String × Data → List Char
  | (name, d) => string name ++ ':' :: print d

end

/-- The compact text of a value. -/
def write (d : Data) : String := String.ofList (print d)

end Confine.Json
