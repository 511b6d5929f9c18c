import SyntaxCensus.Host.Text.Narrow

/-!
# Numerals

Numbers as scripts and arguments spell them: digits of a base, a sign, and a
mark in front that names the base.

Main definitions:

- `Numeral.ofDigits`: the number that digits of a base spell.
- `Numeral.marked?`: a number whose front tells its base, and what follows.
- `Numeral.integer?`: the number that a whole text spells.
- `Numeral.digits`: the digits of a number.
-/

namespace SyntaxCensus
namespace Numeral

/-- The value of a digit or a letter. -/
def digitValue (c : Char) : Nat :=
  if c.isDigit then c.toNat - 0x30
  else if c.isUpper then c.toNat - 0x37
  else if c.isLower then c.toNat - 0x57
  else 99

/-- A digit of a base. -/
def isDigitOf (base : Nat) (c : Char) : Bool :=
  digitValue c < base

/-- The number that digits of a base spell. -/
def ofDigits (base : Nat) (digits : NarrowText) : Nat :=
  digits.foldl (fun value c => value * base + digitValue c) 0

/-- The digits of a base in front, and what follows. -/
def takeDigits (base : Nat) (text : NarrowText) : NarrowText × NarrowText :=
  (text.takeWhile (isDigitOf base), text.dropWhile (isDigitOf base))

/-- A blank before or behind a number. -/
def isSpace (c : Char) : Bool :=
  c = ' ' || (decide (9 ≤ c.toNat) && decide (c.toNat ≤ 13))

/-- A number without a sign whose front tells its base: `0x` stands for
sixteen and another zero for eight. -/
def marked? : NarrowText → Option (Nat × NarrowText)
  | '0' :: x :: c :: rest =>
      if (x = 'x' ∨ x = 'X') ∧ isDigitOf 16 c = true then
        let (digits, after) := takeDigits 16 (c :: rest)
        some (ofDigits 16 digits, after)
      else
        let (digits, after) := takeDigits 8 (x :: c :: rest)
        some (ofDigits 8 digits, after)
  | '0' :: rest =>
      let (digits, after) := takeDigits 8 rest
      some (ofDigits 8 digits, after)
  | text =>
      let (digits, after) := takeDigits 10 text
      if digits.isEmpty then none else some (ofDigits 10 digits, after)

/-- A number in decimal digits. -/
def decimal? (text : NarrowText) : Option (Nat × NarrowText) :=
  let (digits, after) := takeDigits 10 text
  if digits.isEmpty then none else some (ofDigits 10 digits, after)

/-- A number with blanks and a sign before it. -/
def signed? (natural? : NarrowText → Option (Nat × NarrowText)) (text : NarrowText) :
    Option (Int × NarrowText) :=
  match text.dropWhile isSpace with
  | '-' :: rest => (natural? rest).map fun (value, after) => (-(value : Int), after)
  | '+' :: rest => (natural? rest).map fun (value, after) => ((value : Int), after)
  | rest => (natural? rest).map fun (value, after) => ((value : Int), after)

/-- The least and the greatest number of a machine word. -/
def least : Int := -9223372036854775808

/-- The greatest number of a machine word. -/
def greatest : Int := 9223372036854775807

/-- A number fits a machine word. -/
def fits (value : Int) : Bool :=
  decide (least ≤ value) && decide (value ≤ greatest)

/-- The nearest number that fits a machine word. -/
def clamp (value : Int) : Int :=
  if value < least then least else if greatest < value then greatest else value

/-- The number of a machine word after its bits are cut off. -/
def wrap (value : Int) : Int :=
  Int.bmod value 18446744073709551616

/-- The number that a whole text spells, with blanks around it. -/
def integer? (natural? : NarrowText → Option (Nat × NarrowText)) (text : NarrowText) :
    Option Int :=
  match signed? natural? text with
  | some (value, after) => if after.all isSpace && fits value then some value else none
  | none => none

/-- The number that a text of digits only spells. -/
def natural? (text : NarrowText) : Option Nat :=
  if text.isEmpty || !text.all Char.isDigit then none else some (ofDigits 10 text)

/-- The digit of a value. -/
def digitOf (upper : Bool) (value : Nat) : Char :=
  if value < 10 then Char.ofNat (0x30 + value)
  else Char.ofNat ((if upper then 0x37 else 0x57) + value)

/-- The digits of a number in a base, put in front of others; at most `limit`
of them. -/
def digitsOnto (base : Nat) (upper : Bool) (found : NarrowText) (value : Nat) : Nat → NarrowText
  | 0 => found
  | limit + 1 =>
      let found := digitOf upper (value % base) :: found
      if value < base then found else digitsOnto base upper found (value / base) limit

/-- The digits of a number in a base from two on. -/
def digits (base : Nat) (upper : Bool) (value : Nat) : NarrowText :=
  digitsOnto base upper [] value (Nat.log2 value + 1)

/-- A number in decimal digits, with a sign if it is negative. -/
def ofInt (value : Int) : NarrowText :=
  if value < 0 then '-' :: digits 10 false value.natAbs else digits 10 false value.natAbs

/-- A number in decimal digits. -/
def ofNat (value : Nat) : NarrowText :=
  digits 10 false value

end Numeral
end SyntaxCensus
