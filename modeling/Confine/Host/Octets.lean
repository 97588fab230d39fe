import Confine.Bytes

/-!
The host's texts are strings of bytes. Each byte is held as the character of its number, so that
ASCII reads as itself and every byte string is a text.
-/

namespace Confine.Host

/-- Whether a character can start the name of a variable. -/
def isNameStart (c : Char) : Bool := c.isAlpha || c = '_'

def isNameChar (c : Char) : Bool := c.isAlphanum || c = '_'

/-- Whether a text can be the name of a variable. -/
def isName : List Char → Bool
  | c :: cs => isNameStart c && cs.all isNameChar
  | [] => false

namespace Octets

def ofBytes (b : Bytes) : String := String.ofList (b.map fun x => Char.ofNat x.toNat)

def toBytes (s : String) : Bytes := s.toList.map fun c => UInt8.ofNat c.toNat

/-- The UTF-8 form of a text. -/
def ofText (s : String) : String := ofBytes (Bytes.ofText s)

/-- The digits of a text that has no other characters and at least one. -/
def digits? (s : String) : Option Nat :=
  let cs := s.toList
  if cs ≠ [] && cs.all Char.isDigit then
    some (cs.foldl (fun n c => n * 10 + (c.toNat - '0'.toNat)) 0)
  else none

/-- An integer in decimal with an optional sign. -/
def int? (s : String) : Option Int :=
  match s.toList with
  | '-' :: cs => (digits? (String.ofList cs)).map fun n => -(n : Int)
  | '+' :: cs => (digits? (String.ofList cs)).map Int.ofNat
  | _ => (digits? s).map Int.ofNat

/-- A text filled up with blanks on the right. -/
def padRight (width : Nat) (s : String) : String :=
  s ++ String.ofList (List.replicate (width - s.length) ' ')

/-- A text filled up with blanks on the left. -/
def padLeft (width : Nat) (s : String) : String :=
  String.ofList (List.replicate (width - s.length) ' ') ++ s

end Octets

end Confine.Host
