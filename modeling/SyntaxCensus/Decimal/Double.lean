/-!
# Binary floating point

A number of double precision is kept as its 64 bits: a sign, eleven bits of
exponent and 52 bits of fraction.  The magnitude of a finite one is a whole
number of units of `2 ^ -1074`, so sums, products and quotients are computed
exactly on natural numbers and rounded once, to the nearest double with ties
going to the even one.

Main definitions:

- `roundQuotient`: the whole number nearest to a quotient.
- `Double.units`: the magnitude in units of `2 ^ -1074`.
- `Double.nearest`: the double nearest to a fraction.
- `Double.mul`, `Double.div`: products and quotients of magnitudes.
-/

namespace SyntaxCensus

/-- The whole number nearest to `num / den`; of two equally near ones the even
one. -/
def roundQuotient (num den : Nat) : Nat :=
  let quotient := num / den
  let twice := 2 * (num % den)
  if twice < den then quotient
  else if den < twice then quotient + 1
  else if quotient % 2 = 0 then quotient
  else quotient + 1

/-- A number of double precision, by its bits. -/
structure Double where
  bits : UInt64
  deriving DecidableEq, Repr, Inhabited

namespace Double

/-- The weight of the sign bit. -/
def signWeight : Nat := 0x8000000000000000

/-- The bits without the sign. -/
def magnitude (x : Double) : Nat :=
  x.bits.toNat % signWeight

/-- The sign bit is set. -/
def isNegative (x : Double) : Bool :=
  decide (signWeight ≤ x.bits.toNat)

/-- The weight of the first bit of a whole significand. -/
def leadingWeight : Nat := 0x10000000000000

/-- The magnitude bits of infinity; those of finite numbers are below. -/
def infiniteMagnitude : Nat := 0x7FF * leadingWeight

/-- A number from its magnitude bits, with a clear sign. -/
def ofMagnitude (magnitude : Nat) : Double :=
  ⟨UInt64.ofNat magnitude⟩

/-- Neither positive nor negative: both zeros. -/
def isZero (x : Double) : Bool :=
  decide (x.magnitude = 0)

/-- Beyond every finite number. -/
def isInfinite (x : Double) : Bool :=
  decide (x.magnitude = infiniteMagnitude)

/-- The same magnitude with the other sign. -/
def neg (x : Double) : Double :=
  ⟨x.bits ^^^ UInt64.ofNat signWeight⟩

/-- The zero that is printed without a sign. -/
def zero : Double := ⟨0⟩

/-- The whole significand: 53 bits, or fewer in the lowest range. -/
def significand (x : Double) : Nat :=
  if x.magnitude < leadingWeight then x.magnitude
  else leadingWeight + x.magnitude % leadingWeight

/-- How often the unit of the lowest range is doubled. -/
def scale (x : Double) : Nat :=
  x.magnitude / leadingWeight - 1

/-- The magnitude of a finite number in units of `2 ^ -1074`. -/
def units (x : Double) : Nat :=
  x.significand * Nat.pow 2 x.scale

/-- How many units make one. -/
def unitsPerOne : Nat := Nat.pow 2 1074

/-- The double nearest to `num / den`; infinite when that is too large. -/
def nearest (num den : Nat) : Double :=
  let exact := num * unitsPerOne
  let scale := (exact / den).log2 + 1 - 53
  let rounded := scale * leadingWeight + roundQuotient exact (den * Nat.pow 2 scale)
  ofMagnitude (min rounded infiniteMagnitude)

/-- The double nearest to a whole number. -/
def ofNat (n : Nat) : Double :=
  nearest n 1

/-- The product of two finite magnitudes. -/
def mul (x y : Double) : Double :=
  nearest (x.units * y.units) (unitsPerOne * unitsPerOne)

/-- The quotient of two finite magnitudes, the second one not zero. -/
def div (x y : Double) : Double :=
  nearest x.units y.units

/-- The double nearest to a power of ten. -/
def powerOfTen (exponent : Nat) : Double :=
  ofNat (Nat.pow 10 exponent)

/-- The largest power of ten among the doubles. -/
def maxPowerOfTen : Nat := 308

/-- A magnitude times a power of ten, one rounded step at a time: a power
within range is one multiplication or division, and a smaller one is reached by
dividing by the largest power first.  There is no result when it would be
infinite. -/
def scaleByTen (x : Double) (exponent : Int) : Option Double :=
  if exponent.natAbs ≤ maxPowerOfTen then
    if 0 ≤ exponent then
      let product := x.mul (powerOfTen exponent.natAbs)
      if product.isInfinite then none else some product
    else some (x.div (powerOfTen exponent.natAbs))
  else if x.isZero then some x
  else if 0 ≤ exponent then none
  else scaleByTen (x.div (powerOfTen maxPowerOfTen)) (exponent + maxPowerOfTen)
  termination_by exponent.natAbs
  decreasing_by simp only [maxPowerOfTen] at *; omega

end Double
end SyntaxCensus
