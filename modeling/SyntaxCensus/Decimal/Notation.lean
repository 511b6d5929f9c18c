import SyntaxCensus.Decimal.Shortest

/-!
# Decimal text of doubles

Two ways to write a double: with as few digits as read back, as numbers are
written in a document, and with exactly one decimal place, as shares are
written in a summary.

Main definitions:

- `Double.text`: fewest digits, positional or scientific.
- `Double.textOnePlace`: one place, rounded exactly.
-/

namespace SyntaxCensus

/-- Which exponents of the first digit are written positionally. -/
structure PositionalRange where
  lowest : Int
  highest : Int

/-- Numbers of a document are positional from `0.00001` up to sixteen digits
before the point. -/
def documentRange : PositionalRange where
  lowest := -5
  highest := 15

namespace Decimal

/-- The digits without the zeros at the end. -/
def digits (d : Decimal) : List Char :=
  ((Nat.toDigits 10 d.coefficient).reverse.dropWhile (· = '0')).reverse

/-- The power of ten of the first digit. -/
def firstExponent (d : Decimal) : Int :=
  d.exponent + (Nat.toDigits 10 d.coefficient).length - 1

/-- Positional notation, with a digit on either side of the point. -/
def positional (digits : List Char) (exponent : Int) : List Char :=
  if exponent < 0 then
    '0' :: '.' :: (List.replicate (-exponent - 1).toNat '0' ++ digits)
  else
    let whole := exponent.toNat + 1
    let front := digits.take whole
    let back := digits.drop whole
    front ++ List.replicate (whole - front.length) '0' ++ '.' ::
      (if back.isEmpty then ['0'] else back)

/-- Scientific notation: one digit before the point, no point without digits
after it, and an exponent with its sign. -/
def scientific (digits : List Char) (exponent : Int) : List Char :=
  let mantissa :=
    match digits with
    | first :: second :: rest => first :: '.' :: second :: rest
    | few => few
  mantissa ++ 'e' :: (if exponent < 0 then '-' else '+') :: Nat.toDigits 10 exponent.natAbs

/-- A decimal in the notation that the range asks for. -/
def text (range : PositionalRange) (d : Decimal) : List Char :=
  if range.lowest ≤ d.firstExponent ∧ d.firstExponent ≤ range.highest then
    positional d.digits d.firstExponent
  else scientific d.digits d.firstExponent

end Decimal

namespace Double

/-- The text of a finite double in a document. -/
def text (x : Double) : String :=
  let magnitude := if x.isZero then ['0', '.', '0'] else x.shortest.text documentRange
  String.ofList (if x.isNegative then '-' :: magnitude else magnitude)

/-- The text of a finite magnitude with one decimal place; a tie goes to the
even digit. -/
def textOnePlace (x : Double) : String :=
  let tenths := roundQuotient (x.units * 10) unitsPerOne
  s!"{tenths / 10}.{tenths % 10}"

end Double
end SyntaxCensus
