import SyntaxCensus.Host.Decimal.Ratio

/-!
# Calculating with numbers of floating point

Sums, products and other results are calculated exactly and then rounded to a
number of significant bits.

Main definitions:

- `FloatingNumber.add`, `FloatingNumber.mul`, `FloatingNumber.div`,
  `FloatingNumber.mod`, `FloatingNumber.pow`: results of two numbers.
- `FloatingNumber.compare`: the order of two numbers.
- `FloatingNumber.truncate`: the whole part of a number.
-/

namespace SyntaxCensus

namespace Ratio

/-- The same magnitude with the smallest numerator and denominator. -/
def reduced (r : Ratio) : Ratio :=
  let factor := r.numerator.gcd r.denominator
  if factor ≤ 1 then r else ⟨r.numerator / factor, r.denominator / factor⟩

/-- Whole numbers up to this one are not rounded. -/
def maxWhole : Nat := 9007199254740992

end Ratio

namespace FloatingNumber

/-- The significant bits of numbers. -/
def doubleBits : Nat := 53

/-- A magnitude with a sign as a number: rounded, and infinite if it is too
large. -/
def ofRatio (negative : Bool) (r : Ratio) : FloatingNumber :=
  if r.denominator = 0 then .undefined negative
  else if r.denominator = 1 ∧ r.numerator ≤ Ratio.maxWhole then .finite negative r
  else
    let rounded := (r.rounded doubleBits).reduced
    let size : Int := (rounded.numerator.log2 : Int) - rounded.denominator.log2
    if 1024 < size ∨ (1022 < size ∧ rounded.numerator ≥ Nat.pow 2 1024 * rounded.denominator) then
      .infinite negative
    else if size < -1080 then .finite negative ⟨0, 1⟩
    else .finite negative rounded

/-- A whole number. -/
def ofInt (value : Int) : FloatingNumber :=
  ofRatio (value < 0) ⟨value.natAbs, 1⟩

/-- Zero. -/
def zero : FloatingNumber := .finite false ⟨0, 1⟩

/-- The number with the other sign. -/
def neg : FloatingNumber → FloatingNumber
  | finite negative r => .finite (!negative) r
  | infinite negative => .infinite !negative
  | undefined negative => .undefined !negative

/-- A number is zero. -/
def isZero : FloatingNumber → Bool
  | finite _ r => r.numerator = 0
  | _ => false

/-- The numerator with its sign. -/
def signedNumerator (negative : Bool) (r : Ratio) : Int :=
  if negative then -(r.numerator : Int) else r.numerator

/-- The sum of two numbers. -/
def add : FloatingNumber → FloatingNumber → FloatingNumber
  | finite p x, finite q y =>
      let sum := signedNumerator p x * y.denominator + signedNumerator q y * x.denominator
      ofRatio (sum < 0) ⟨sum.natAbs, x.denominator * y.denominator⟩
  | undefined p, _ => .undefined p
  | _, undefined q => .undefined q
  | infinite p, infinite q => if p = q then .infinite p else .undefined true
  | infinite p, _ => .infinite p
  | _, infinite q => .infinite q

/-- The difference of two numbers. -/
def sub (a b : FloatingNumber) : FloatingNumber :=
  a.add b.neg

/-- The product of two numbers. -/
def mul : FloatingNumber → FloatingNumber → FloatingNumber
  | finite p x, finite q y =>
      ofRatio (p != q) ⟨x.numerator * y.numerator, x.denominator * y.denominator⟩
  | undefined p, _ => .undefined p
  | _, undefined q => .undefined q
  | infinite p, other => if other.isZero then .undefined true else .infinite (p != other.isNegative)
  | other, infinite q => if other.isZero then .undefined true else .infinite (q != other.isNegative)

/-- The quotient of two numbers. -/
def div : FloatingNumber → FloatingNumber → FloatingNumber
  | finite p x, finite q y =>
      if y.numerator = 0 then
        if x.numerator = 0 then .undefined true else .infinite (p != q)
      else ofRatio (p != q) ⟨x.numerator * y.denominator, x.denominator * y.numerator⟩
  | undefined p, _ => .undefined p
  | _, undefined q => .undefined q
  | infinite _, infinite _ => .undefined true
  | infinite p, other => .infinite (p != other.isNegative)
  | other, infinite q => .finite (other.isNegative != q) ⟨0, 1⟩

/-- What is left of a number by another one; it has the sign of the first. -/
def mod : FloatingNumber → FloatingNumber → FloatingNumber
  | finite p x, finite _ y =>
      if y.numerator = 0 then .undefined true
      else
        let divisor := y.numerator * x.denominator
        ofRatio p ⟨x.numerator * y.denominator % divisor, x.denominator * y.denominator⟩
  | undefined p, _ => .undefined p
  | _, undefined q => .undefined q
  | infinite _, _ => .undefined true
  | other, infinite _ => other

/-- The whole part of a number, without a fraction. -/
def truncate : FloatingNumber → FloatingNumber
  | finite negative r => .finite negative ⟨r.floor, 1⟩
  | other => other

/-- The order of two numbers; none if one is undefined. -/
def compare? : FloatingNumber → FloatingNumber → Option Ordering
  | finite p x, finite q y =>
      some (compare (signedNumerator p x * y.denominator) (signedNumerator q y * x.denominator))
  | undefined _, _ | _, undefined _ => none
  | infinite p, infinite q => some (if p = q then .eq else if p then .lt else .gt)
  | infinite p, _ => some (if p then .lt else .gt)
  | _, infinite q => some (if q then .gt else .lt)

/-- The whole number that a number is, if it is one. -/
def toInt? : FloatingNumber → Option Int
  | finite negative r =>
      if r.denominator ≠ 0 ∧ r.numerator % r.denominator = 0 then
        some (signedNumerator negative ⟨r.numerator / r.denominator, 1⟩)
      else none
  | _ => none

/-- The whole part of a number that is not too large. -/
def toInt (n : FloatingNumber) : Int :=
  match n.truncate with
  | finite negative r => signedNumerator negative r
  | infinite negative => if negative then Numeral.least else Numeral.greatest
  | undefined _ => Numeral.least

/-! ## Powers -/

/-- The power of a magnitude with a whole exponent. -/
def ratioPower (r : Ratio) (exponent : Nat) : FloatingNumber :=
  let size : Int := ((r.numerator.log2 : Int) - r.denominator.log2) * exponent
  if r.numerator = 0 then .finite false ⟨if exponent = 0 then 1 else 0, 1⟩
  else if 4000 < size then .infinite false
  else if size < -4000 then zero
  else if 60000 < exponent then approximated r exponent
  else ofRatio false ⟨Nat.pow r.numerator exponent, Nat.pow r.denominator exponent⟩
where
  /-- The power by repeated squares, each of them rounded. -/
  approximated (r : Ratio) (exponent : Nat) : FloatingNumber :=
    (squares (exponent.log2 + 1) exponent (.finite false r)).1
  /-- The power of the lowest bits of an exponent, and the square that belongs
  to the next bit. -/
  squares (limit exponent : Nat) (base : FloatingNumber) : FloatingNumber × FloatingNumber :=
    match limit with
    | 0 => (.finite false ⟨1, 1⟩, base)
    | limit + 1 =>
        let (power, square) := squares limit (exponent / 2) (base.mul base)
        (if exponent % 2 = 1 then base.mul power else power, square)

/-- The power of a number with a whole exponent. -/
def powInt (base : FloatingNumber) (exponent : Int) : FloatingNumber :=
  let odd := exponent.natAbs % 2 = 1
  match base with
  | finite negative r =>
      let power := ratioPower r exponent.natAbs
      let power := if exponent < 0 then (finite false ⟨1, 1⟩).div power else power
      if negative ∧ odd then power.neg else power
  | infinite negative =>
      if exponent = 0 then .finite false ⟨1, 1⟩
      else if exponent < 0 then zero
      else .infinite (negative ∧ odd)
  | undefined negative => if exponent = 0 then .finite false ⟨1, 1⟩ else .undefined negative

end FloatingNumber
end SyntaxCensus
