import SyntaxCensus.Decimal.Double
import SyntaxCensus.Host.Text.Numeral

/-!
# Decimal text of ratios

Numbers of floating point are exact ratios after they are rounded to a number
of bits.  They are written with a number of places, or with a power of ten.

Main definitions:

- `Ratio`: a magnitude as a fraction of whole numbers.
- `Ratio.rounded`: the nearest magnitude with a number of significant bits.
- `Ratio.read?`: the number in front of a text.
- `Ratio.fixed`, `Ratio.scientific`, `Ratio.general`: ways to write it.
-/

namespace SyntaxCensus

/-- A magnitude: a fraction whose denominator is not zero. -/
structure Ratio where
  numerator : Nat
  denominator : Nat := 1
  deriving DecidableEq, Repr

/-- A number of floating point. -/
inductive FloatingNumber where
  | finite (negative : Bool) (magnitude : Ratio)
  | infinite (negative : Bool)
  | undefined (negative : Bool)
  deriving DecidableEq, Repr

namespace Ratio

/-- A fraction times a power of two. -/
def scaled (r : Ratio) (exponent : Int) : Ratio :=
  ⟨r.numerator * Nat.pow 2 exponent.toNat, r.denominator * Nat.pow 2 (-exponent).toNat⟩

/-- The whole part. -/
def floor (r : Ratio) : Nat :=
  r.numerator / r.denominator

/-- The nearest whole number, a tie going to the even one. -/
def round (r : Ratio) : Nat :=
  roundQuotient r.numerator r.denominator

/-- The power of two that makes the whole part one of `bits` bits. -/
def shift (r : Ratio) (bits : Nat) : Int :=
  let guess : Int := bits + r.denominator.log2 - r.numerator.log2 - 1
  if (r.scaled guess).floor.log2 + 1 < bits then guess + 1
  else if bits < (r.scaled guess).floor.log2 + 1 then guess - 1
  else guess

/-- The nearest magnitude with a number of significant bits. -/
def rounded (bits : Nat) (r : Ratio) : Ratio :=
  if r.numerator = 0 then r
  else
    let shift := r.shift bits
    Ratio.scaled ⟨(r.scaled shift).round, 1⟩ (-shift)

/-! ## Writing -/

/-- Digits with a point before the last `places` of them; the point is left
out if nothing follows it and `pointed` does not ask for it. -/
def withPoint (pointed : Bool) (places : Nat) (digits : NarrowText) : NarrowText :=
  let digits := List.replicate (places + 1 - digits.length) '0' ++ digits
  let front := digits.take (digits.length - places)
  let back := digits.drop (digits.length - places)
  if back.isEmpty && !pointed then front else front ++ '.' :: back

/-- A magnitude with a number of places. -/
def fixed (pointed : Bool) (places : Nat) (r : Ratio) : NarrowText :=
  withPoint pointed places
    (Numeral.ofNat (roundQuotient (r.numerator * Nat.pow 10 places) r.denominator))

/-- A magnitude times a power of ten, rounded to a whole number. -/
def roundedAt (r : Ratio) (exponent : Int) : Nat :=
  roundQuotient (r.numerator * Nat.pow 10 exponent.toNat)
    (r.denominator * Nat.pow 10 (-exponent).toNat)

/-- The power of ten at most as large as a magnitude that is not zero. -/
def firstExponent (r : Ratio) : Int :=
  let guess : Int :=
    (Numeral.ofNat r.numerator).length - ((Numeral.ofNat r.denominator).length : Int)
  if r.numerator * Nat.pow 10 (-guess).toNat < r.denominator * Nat.pow 10 guess.toNat then guess - 1
  else guess

/-- The digits of a magnitude, one more than `places`, and the power of ten of
the first one. -/
def digitsAndExponent (places : Nat) (r : Ratio) : NarrowText × Int :=
  if r.numerator = 0 then (List.replicate (places + 1) '0', 0)
  else
    let exponent := r.firstExponent
    let digits := Numeral.ofNat (r.roundedAt (places - exponent))
    if digits.length = places + 1 then (digits, exponent)
    else (digits.take (places + 1), exponent + 1)

/-- An exponent with its sign and at least two digits. -/
def exponentText (upper : Bool) (exponent : Int) : NarrowText :=
  let digits := Numeral.ofNat exponent.natAbs
  (if upper then 'E' else 'e') :: (if exponent < 0 then '-' else '+') ::
    (if digits.length < 2 then '0' :: digits else digits)

/-- A magnitude with one digit before the point and an exponent. -/
def scientific (pointed upper : Bool) (places : Nat) (r : Ratio) : NarrowText :=
  let (digits, exponent) := r.digitsAndExponent places
  withPoint pointed places digits ++ exponentText upper exponent

/-- Text with a point without the zeros at its end. -/
def withoutZeros (text : NarrowText) : NarrowText :=
  if text.contains '.' then
    match text.reverse.dropWhile (· = '0') with
    | '.' :: front => front.reverse
    | front => front.reverse
  else text

/-- A magnitude with a number of significant digits, in the shorter notation;
zeros at the end are left out unless `pointed` asks for them. -/
def general (pointed upper : Bool) (precision : Nat) (r : Ratio) : NarrowText :=
  let precision := max precision 1
  let (digits, exponent) := r.digitsAndExponent (precision - 1)
  let trim (text : NarrowText) : NarrowText := if pointed then text else withoutZeros text
  if -4 ≤ exponent ∧ exponent < precision then
    trim (r.fixed pointed ((precision - 1 : Int) - exponent).toNat)
  else trim (withPoint pointed (precision - 1) digits) ++ exponentText upper exponent

/-! ## Reading -/

/-- Digits of a base with a point among them: the digits, how many of them
stand behind the point, and what follows. -/
def readDigits (base : Nat) (text : NarrowText) : NarrowText × Nat × NarrowText :=
  let (front, after) := Numeral.takeDigits base text
  match after with
  | '.' :: rest =>
      let (back, after) := Numeral.takeDigits base rest
      if front.isEmpty && back.isEmpty then ([], 0, text)
      else (front ++ back, back.length, after)
  | _ => (front, 0, after)

/-- An exponent behind one of two marks, and what follows. -/
def readExponent (lower upper : Char) (text : NarrowText) : Int × NarrowText :=
  match text with
  | c :: rest =>
      if c = lower ∨ c = upper then
        let (negative, digits) :=
          match rest with
          | '-' :: more => (true, more)
          | '+' :: more => (false, more)
          | more => (false, more)
        match Numeral.decimal? digits with
        | some (value, after) => (if negative then -(value : Int) else value, after)
        | none => (0, text)
      else (0, text)
  | [] => (0, text)

/-- The greatest exponent that is not infinite for sure. -/
def maxExponent : Int := 20000

/-- The magnitude in front of a text, and what follows. -/
def read? (text : NarrowText) : Option (Ratio × NarrowText) :=
  match text with
  | '0' :: x :: rest =>
      let (digits, places, after) := readDigits 16 rest
      if (x = 'x' ∨ x = 'X') ∧ digits.isEmpty = false then
        let (exponent, after) := readExponent 'p' 'P' after
        let exponent := max (-maxExponent) (min maxExponent exponent)
        some (Ratio.scaled ⟨Numeral.ofDigits 16 digits, 1⟩ (exponent - 4 * places), after)
      else decimal? text
  | _ => decimal? text
where
  /-- A magnitude in decimal notation. -/
  decimal? (text : NarrowText) : Option (Ratio × NarrowText) :=
    let (digits, places, after) := readDigits 10 text
    if digits.isEmpty then none
    else
      let (exponent, after) := readExponent 'e' 'E' after
      let exponent := max (-maxExponent) (min maxExponent exponent) - places
      some
        (⟨Numeral.ofDigits 10 digits * Nat.pow 10 exponent.toNat, Nat.pow 10 (-exponent).toNat⟩,
          after)

end Ratio

namespace FloatingNumber

/-- A text begins with a word in either case. -/
def beginsWith (word : String) (text : NarrowText) : Bool :=
  (text.take word.length).map Char.toLower = word.toList

/-- The number in front of a text, rounded to a number of bits, and what
follows. -/
def read? (bits : Nat) (text : NarrowText) : Option (FloatingNumber × NarrowText) :=
  let (negative, body) :=
    match text.dropWhile Numeral.isSpace with
    | '-' :: rest => (true, rest)
    | '+' :: rest => (false, rest)
    | rest => (false, rest)
  if beginsWith "infinity" body then some (.infinite negative, body.drop 8)
  else if beginsWith "inf" body then some (.infinite negative, body.drop 3)
  else if beginsWith "nan" body then some (.undefined negative, body.drop 3)
  else
    (Ratio.read? body).map fun (magnitude, after) =>
      (.finite negative (magnitude.rounded bits), after)

/-- The number is less than zero or a zero with a sign. -/
def isNegative : FloatingNumber → Bool
  | finite negative _ | infinite negative | undefined negative => negative

end FloatingNumber
end SyntaxCensus
