import SyntaxCensus.Text.Utf8

/-!
# Narrow text

Programs exchange octets.  Where those are looked at one by one they are shown
as characters: each octet as the character of the same number, below U+0100.
-/

namespace SyntaxCensus

/-- Octets shown as the characters of the same numbers. -/
abbrev NarrowText := List Char

namespace NarrowText

/-- Octets as narrow text. -/
def ofOctets (octets : List UInt8) : NarrowText :=
  octets.map fun octet => Char.ofNat octet.toNat

/-- The octets that narrow text shows. -/
def toOctets (text : NarrowText) : List UInt8 :=
  text.map fun c => UInt8.ofNat c.toNat

/-- The octets of a text as narrow text. -/
def ofString (text : String) : NarrowText :=
  ofOctets (Utf8.encode text)

/-- Narrow text read as UTF-8. -/
def toString (text : NarrowText) : String :=
  Utf8.decodeLossy (toOctets text)

end NarrowText
end SyntaxCensus
