import SyntaxCensus.Decimal.Double

/-!
# The shortest decimal of a double

Every double stands for the interval of reals that round to it.  Its shortest
decimal is the one with the fewest digits in that interval, and among those
the one nearest to the double; of two equally near ones the even one.  All
comparisons are exact: interval and grid points are natural numbers over a
common denominator.

Main definitions:

- `Double.interval`: the reals that round to a double.
- `Double.shortest`: digits and power of ten of its shortest decimal.
-/

namespace SyntaxCensus

/-- A decimal: a whole number times a power of ten. -/
structure Decimal where
  coefficient : Nat
  exponent : Int
  deriving DecidableEq, Repr

namespace Double

/-- The reals that round to a double, in quarters of its unit `2 ^ -1074`. -/
structure Interval where
  low : Nat
  value : Nat
  high : Nat
  /-- The end points round to the double too. -/
  closed : Bool
  deriving DecidableEq, Repr

/-- Half the distance to either neighbour belongs to a double; a power of two
is twice as near to the neighbour below it.  Ties go to an even significand,
so the ends belong to a double with one. -/
def interval (x : Double) : Interval :=
  let value := 4 * x.units
  let reach := 2 * Nat.pow 2 x.scale
  let isPower := x.significand = leadingWeight ∧ 0 < x.scale
  { low := value - (if isPower then Nat.pow 2 x.scale else reach)
    value := value
    high := value + reach
    closed := x.significand % 2 = 0 }

/-- How many quarters of a unit make one. -/
def quartersPerOne : Nat := 4 * unitsPerOne

/-- `10 ^ exponent` is at most the value of `quarters`. -/
def tenPowerAtMost (exponent : Int) (quarters : Nat) : Bool :=
  decide (quartersPerOne * Nat.pow 10 exponent.toNat ≤ quarters * Nat.pow 10 (-exponent).toNat)

/-- Raise an exponent while the power of ten above it is still at most the
value, a given number of times at most. -/
def raiseExponent (quarters : Nat) : Nat → Int → Int
  | 0, exponent => exponent
  | steps + 1, exponent =>
      if tenPowerAtMost (exponent + 1) quarters then
        raiseExponent quarters steps (exponent + 1)
      else exponent

/-- The power of ten of the first digit of a value that is not zero: an
estimate from its number of bits, which is never too high and at most three
too low, is raised. -/
def leadingExponent (quarters : Nat) : Int :=
  let binary : Int := (quarters.log2 : Int) - 1076
  raiseExponent quarters 4 (binary * 30103 / 100000 - 1)

namespace Interval

/-- A grid point lies among the reals of the interval.  The point is `count`
steps of `step`, where the interval is widened by the factor `widen`. -/
def holds (i : Interval) (widen step count : Nat) : Bool :=
  if i.closed then
    decide (i.low * widen ≤ count * step ∧ count * step ≤ i.high * widen)
  else
    decide (i.low * widen < count * step ∧ count * step < i.high * widen)

/-- The point of the grid of multiples of `10 ^ exponent` in the interval that
is nearest to its value, if there is one. -/
def onGrid (i : Interval) (exponent : Int) : Option Decimal :=
  let widen := Nat.pow 10 (-exponent).toNat
  let step := quartersPerOne * Nat.pow 10 exponent.toNat
  let below := i.value * widen / step
  let above := below + 1
  let belowHolds := i.holds widen step below
  let aboveHolds := i.holds widen step above
  if belowHolds && aboveHolds then
    let toBelow := i.value * widen - below * step
    let toAbove := above * step - i.value * widen
    if toBelow < toAbove then some ⟨below, exponent⟩
    else if toAbove < toBelow then some ⟨above, exponent⟩
    else if below % 2 = 0 then some ⟨below, exponent⟩
    else some ⟨above, exponent⟩
  else if belowHolds then some ⟨below, exponent⟩
  else if aboveHolds then some ⟨above, exponent⟩
  else none

/-- The point of the coarsest grid that has one in the interval, on grids of
ever one digit more; seventeen digits always suffice. -/
def coarsest (i : Interval) : Nat → Int → Decimal
  | 0, exponent =>
      ⟨i.value * Nat.pow 10 (-exponent).toNat / (quartersPerOne * Nat.pow 10 exponent.toNat),
        exponent⟩
  | grids + 1, exponent =>
      match i.onGrid exponent with
      | some point => point
      | none => i.coarsest grids (exponent - 1)

end Interval

/-- The shortest decimal that reads back as the magnitude of a finite double
other than zero. -/
def shortest (x : Double) : Decimal :=
  x.interval.coarsest 17 (leadingExponent x.interval.value)

end Double
end SyntaxCensus
