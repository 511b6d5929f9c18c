import SyntaxCensus.Host.Decimal.Arithmetic

/-!
# Functions of numbers

Roots, logarithms and the functions of angles are calculated with whole numbers
as multiples of a small unit, by series whose last parts are too small to
matter.

Main definitions:

- `FloatingNumber.sqrt`, `FloatingNumber.exp`, `FloatingNumber.log`.
- `FloatingNumber.sin`, `FloatingNumber.cos`, `FloatingNumber.atan2`.
- `FloatingNumber.pow`: powers with any exponent.
-/

namespace SyntaxCensus
namespace Fixed

/-- The bits behind the point. -/
def places : Nat := 160

/-- One as a multiple of the unit. -/
def one : Int := Nat.pow 2 places

/-- The product of two multiples of the unit. -/
def mul (a b : Int) : Int :=
  (a * b) / one

/-- The quotient of two multiples of the unit. -/
def div (a b : Int) : Int :=
  if b = 0 then 0 else (a * one) / b

/-- A sum of terms, each of which follows from the one before; `count` of
them. -/
def series (next : Nat → Int → Int) (term : Int) (index : Nat) : Nat → Int
  | 0 => 0
  | count + 1 => term + series next (next index term) (index + 1) count

/-- The power of e for a small exponent. -/
def expSmall (x : Int) : Int :=
  series (fun k term => mul term x / (k + 1)) one 0 60

/-- The inverse hyperbolic tangent of a small number. -/
def atanh (y : Int) : Int :=
  let square := mul y y
  powers square y 0 120
where
  /-- The odd powers of a number, each divided by its exponent. -/
  powers (square power : Int) (index : Nat) : Nat → Int
    | 0 => 0
    | count + 1 => power / (2 * index + 1) + powers square (mul power square) (index + 1) count

/-- The inverse tangent of a small number. -/
def atanSmall (y : Int) : Int :=
  atanh.powers (-mul y y) y 0 120

/-- The natural logarithm of two. -/
def ln2 : Int :=
  2 * atanh (one / 3)

/-- Half the circumference of a circle of radius one. -/
def pi : Int :=
  16 * atanSmall (one / 5) - 4 * atanSmall (one / 239)

/-- The whole root of a number; at most `limit` steps that come nearer. -/
def rootFrom (value : Nat) (guess : Nat) : Nat → Nat
  | 0 => guess
  | limit + 1 =>
      let next := (guess + value / max 1 guess) / 2
      if guess ≤ next then guess else rootFrom value next limit

/-- The whole root of a number. -/
def root (value : Nat) : Nat :=
  if value = 0 then 0 else rootFrom value (Nat.pow 2 (value.log2 / 2 + 1)) (value.log2 + 10)

/-- The inverse tangent of a number that is not negative. -/
def atan (y : Int) : Int :=
  if one < y then pi / 2 - atanSmall (halved (div one y)) * 4
  else atanSmall (halved y) * 4
where
  /-- The tangent of a quarter of the angle. -/
  halved (y : Int) : Int := half (half y)
  /-- The tangent of half the angle. -/
  half (y : Int) : Int :=
    div y (one + (root ((one * one + y * y).toNat) : Nat))

/-- The sine of an angle. -/
def sin (x : Int) : Int :=
  let turn := 2 * pi
  let x := Int.emod x turn
  let x := if pi < x then x - turn else x
  let square := mul x x
  series (fun k term => -(mul term square) / ((2 * k + 2) * (2 * k + 3))) x 0 60

/-- A number as a multiple of the unit. -/
def ofRatio (negative : Bool) (r : Ratio) : Int :=
  let value : Int := (r.numerator * Nat.pow 2 places / r.denominator : Nat)
  if negative then -value else value

/-- A multiple of the unit as a number. -/
def toNumber (value : Int) : FloatingNumber :=
  FloatingNumber.ofRatio (value < 0) ⟨value.natAbs, Nat.pow 2 places⟩

end Fixed

namespace FloatingNumber

open Fixed

/-- The root of a number. -/
def sqrt : FloatingNumber → FloatingNumber
  | finite negative r =>
      if r.numerator = 0 then .finite negative r
      else if negative then .undefined true
      else
        let shift := 2 * (60 + r.denominator.log2)
        ofRatio false ⟨root (r.numerator * Nat.pow 2 (2 * shift) / r.denominator), Nat.pow 2 shift⟩
  | infinite false => .infinite false
  | infinite true => .undefined true
  | undefined negative => .undefined negative

/-- The power of e. -/
def exp : FloatingNumber → FloatingNumber
  | finite negative r =>
      if 800 * r.denominator < r.numerator then
        if negative then zero else .infinite false
      else
        let x := Fixed.ofRatio negative r
        let count := (x + ln2 / 2) / ln2
        let value := expSmall (x - count * ln2)
        let scaled := Ratio.scaled ⟨value.natAbs, Nat.pow 2 places⟩ count
        ofRatio false scaled
  | infinite false => .infinite false
  | infinite true => zero
  | undefined negative => .undefined negative

/-- The natural logarithm of a magnitude that is not zero. -/
def logFixed (r : Ratio) : Int :=
  let shift : Int := (r.numerator.log2 : Int) - r.denominator.log2
  let m := Fixed.ofRatio false (r.scaled (-shift))
  2 * atanh (Fixed.div (m - one) (m + one)) + shift * ln2

/-- The natural logarithm. -/
def log : FloatingNumber → FloatingNumber
  | finite negative r =>
      if r.numerator = 0 then .infinite true
      else if negative then .undefined true
      else toNumber (logFixed r)
  | infinite false => .infinite false
  | infinite true => .undefined true
  | undefined negative => .undefined negative

/-- The sine of an angle. -/
def sin : FloatingNumber → FloatingNumber
  | finite negative r => toNumber (Fixed.sin (Fixed.ofRatio negative r))
  | infinite _ => .undefined true
  | other => other

/-- The cosine of an angle. -/
def cos : FloatingNumber → FloatingNumber
  | finite negative r => toNumber (Fixed.sin (Fixed.ofRatio negative r + pi / 2))
  | infinite _ => .undefined true
  | other => other

/-- The angle of a point with two coordinates, the vertical one first. -/
def atan2 : FloatingNumber → FloatingNumber → FloatingNumber
  | finite p y, finite q x =>
      let angle :=
        if x.numerator = 0 then if y.numerator = 0 then 0 else pi / 2
        else
          Fixed.atan (Fixed.ofRatio false
            ⟨y.numerator * x.denominator, y.denominator * x.numerator⟩)
      let angle := if q ∧ ¬(x.numerator = 0 ∧ y.numerator ≠ 0) then pi - angle else angle
      toNumber (if p then -angle else angle)
  | undefined p, _ => .undefined p
  | _, undefined q => .undefined q
  | infinite p, _ => toNumber (if p then -(pi / 2) else pi / 2)
  | y, infinite q =>
      toNumber (if !q then 0 else if y.isNegative then -pi else pi)

/-- A power with any exponent. -/
def pow (base exponent : FloatingNumber) : FloatingNumber :=
  match exponent.toInt?, base, exponent with
  | some whole, base, _ => powInt base whole
  | none, finite false r, finite negative e =>
      if r.numerator = 0 then if negative then .infinite false else zero
      else
        let product := mul (toNumber (logFixed r)) (.finite negative e)
        match product with
        | finite sign size =>
            if 800 * size.denominator < size.numerator then exp product
            else
              let exact := logFixed r * signedNumerator negative e / e.denominator
              exp' sign exact
        | other => exp other
  | none, infinite false, finite negative _ => if negative then zero else .infinite false
  | none, base, infinite negative =>
      match compare? (base.mul base) (finite false ⟨1, 1⟩) with
      | some .gt => if negative then zero else .infinite false
      | some .lt => if negative then .infinite false else zero
      | _ => .finite false ⟨1, 1⟩
  | none, _, _ => .undefined true
where
  /-- The power of e for a multiple of the unit. -/
  exp' (_sign : Bool) (x : Int) : FloatingNumber :=
    let count := (x + ln2 / 2) / ln2
    let value := expSmall (x - count * ln2)
    ofRatio false (Ratio.scaled ⟨value.natAbs, Nat.pow 2 places⟩ count)

end FloatingNumber
end SyntaxCensus
