/-!
# Octets with a meaning

The octets that the grammar of documents names, and what digits are worth.
-/

namespace SyntaxCensus
namespace Octet

def tab : UInt8 := 0x09
def lineFeed : UInt8 := 0x0A
def carriageReturn : UInt8 := 0x0D
def blank : UInt8 := 0x20
def quote : UInt8 := 0x22
def plus : UInt8 := 0x2B
def comma : UInt8 := 0x2C
def minus : UInt8 := 0x2D
def point : UInt8 := 0x2E
def colon : UInt8 := 0x3A
def openBracket : UInt8 := 0x5B
def backslash : UInt8 := 0x5C
def closeBracket : UInt8 := 0x5D
def openBrace : UInt8 := 0x7B
def closeBrace : UInt8 := 0x7D

/-- A blank between the words of a document. -/
def isBlank (octet : UInt8) : Bool :=
  octet == blank || octet == lineFeed || octet == tab || octet == carriageReturn

/-- The mark of an exponent, in either case. -/
def isExponentMark (octet : UInt8) : Bool :=
  octet == 0x65 || octet == 0x45

/-- The value of a decimal digit. -/
def digit? (octet : UInt8) : Option Nat :=
  if 0x30 ≤ octet ∧ octet ≤ 0x39 then some (octet.toNat - 0x30) else none

/-- A decimal digit. -/
def isDigit (octet : UInt8) : Bool :=
  (digit? octet).isSome

/-- The value of a hexadecimal digit, in either case. -/
def hexDigit? (octet : UInt8) : Option Nat :=
  if 0x30 ≤ octet ∧ octet ≤ 0x39 then some (octet.toNat - 0x30)
  else if 0x61 ≤ octet ∧ octet ≤ 0x66 then some (octet.toNat - 0x57)
  else if 0x41 ≤ octet ∧ octet ≤ 0x46 then some (octet.toNat - 0x37)
  else none

/-- The octet that an escape of one letter stands for. -/
def escaped? (letter : UInt8) : Option UInt8 :=
  if letter = quote ∨ letter = backslash ∨ letter = 0x2F then some letter
  else if letter = 0x62 then some 0x08
  else if letter = 0x66 then some 0x0C
  else if letter = 0x6E then some lineFeed
  else if letter = 0x72 then some carriageReturn
  else if letter = 0x74 then some tab
  else none

end Octet
end SyntaxCensus
