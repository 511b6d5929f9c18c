import SyntaxCensus.Histogram.Basic

/-!
# Ranking of kinds

The kinds of a histogram by falling count; kinds with the same count are in
ascending order.

Main definitions:

- `Histogram.ranking`: all kinds with their counts.
- `Histogram.top`: the first kinds of the ranking with their shares.
-/

namespace SyntaxCensus

/-- A kind with its count and its share of all nodes in percent. -/
structure KindShare where
  kind : String
  count : Nat
  percentage : Double
  deriving DecidableEq, Repr

namespace Histogram

/-- One entry ranks before another, or they are the same. -/
def ranksBefore (a b : String × Nat) : Bool :=
  decide (b.2 < a.2) || (decide (a.2 = b.2) && !decide (b.1 < a.1))

/-- The entries by falling count. -/
def ranking (h : Histogram) : List (String × Nat) :=
  h.entries.mergeSort ranksBefore

/-- A share in percent: the quotient of the counts is rounded to a double, and
so is a hundred times that; of nothing every share is zero. -/
def percentage (count total : Nat) : Double :=
  if total = 0 then .zero
  else ((Double.ofNat count).div (Double.ofNat total)).mul (Double.ofNat 100)

/-- The first kinds of the ranking. -/
def top (h : Histogram) (limit : Nat) : List KindShare :=
  (h.ranking.take limit).map fun entry =>
    ⟨entry.1, entry.2, percentage entry.2 h.total⟩

end Histogram
end SyntaxCensus
