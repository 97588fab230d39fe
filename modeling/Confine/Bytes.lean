/-!
Byte strings.
-/

namespace Confine

abbrev Bytes := List UInt8

namespace Bytes

/-- The UTF-8 form of a text. -/
def ofText (s : String) : Bytes := s.toUTF8.toList

/-- The text that the bytes are the UTF-8 form of, if they are one. -/
def toText? (b : Bytes) : Option String := String.fromUTF8? ⟨b.toArray⟩

end Bytes

end Confine
