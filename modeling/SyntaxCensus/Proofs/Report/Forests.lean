import SyntaxCensus.Proofs.Histogram.Occurrences
import SyntaxCensus.Proofs.Report.Totals

/-!
# Counting a forest

Trees may be counted one after another into one histogram, or each into a
histogram of its own and these merged.  Both add up the occurrences of the kinds
in all trees, which are also those in the single array of the trees.  So the
totals of a corpus are what one pass over all of its trees counts.

Main results:

- `Histogram.countTree_eq_merge`: counting a tree is merging its histogram.
- `Histogram.foldl_countTree_eq_foldl_merge`: so is counting trees in turn.
- `Histogram.sum_get_ofTree`: the histograms of trees have all occurrences.
- `countTree_forest_eq_merge`: the ways of counting a forest agree.
-/

namespace SyntaxCensus
namespace Histogram

variable (marker : String)

/-- The histogram of an array of trees has the occurrences in all of them. -/
theorem get_ofTree_array (trees : List Json) (kind : String) :
    (ofTree marker (.array trees)).get kind = Json.occurrencesItems marker kind trees := by
  rw [get_ofTree, Json.occurrences]

/-- Counting a tree is merging its histogram. -/
theorem countTree_eq_merge (h : Histogram) (tree : Json) :
    h.countTree marker tree = h.merge (ofTree marker tree) := by
  refine ext_get fun kind => ?_
  rw [countTree, get_countPending_singleton, get_merge, get_ofTree]

/-- Counting trees in turn is merging their histograms in turn. -/
theorem foldl_countTree_eq_foldl_merge (trees : List Json) (h : Histogram) :
    trees.foldl (countTree marker) h = (trees.map (ofTree marker)).foldl merge h := by
  induction trees generalizing h with
  | nil => rfl
  | cons tree rest ih =>
      rw [List.foldl_cons, ih, countTree_eq_merge, List.map_cons, List.foldl_cons]

/-- The histograms of trees have the occurrences in all of the trees. -/
theorem sum_get_ofTree (trees : List Json) (kind : String) :
    ((trees.map (ofTree marker)).map (·.get kind)).sum =
      Json.occurrencesItems marker kind trees := by
  induction trees with
  | nil => rfl
  | cons tree rest ih =>
      rw [List.map_cons, List.map_cons, List.sum_cons, ih, get_ofTree, Json.occurrencesItems]

end Histogram

/-- Counting trees one after another gives the same histogram as merging the
histograms of the trees, in any order, and as merging the histogram of the array of
all trees.  The total of a corpus whose compiled files have the histograms of the
trees is the histogram of that array, whatever files failed. -/
theorem countTree_forest_eq_merge (marker : String) (h : Histogram) (trees : List Json) :
    (∀ histograms : List Histogram, histograms.Perm (trees.map (Histogram.ofTree marker)) →
        trees.foldl (Histogram.countTree marker) h = histograms.foldl Histogram.merge h) ∧
      trees.foldl (Histogram.countTree marker) h =
        h.merge (Histogram.ofTree marker (.array trees)) ∧
      ∀ results : List FileResult,
        (results.filterMap FileResult.histogram?).Perm (trees.map (Histogram.ofTree marker)) →
          totalOf results = Histogram.ofTree marker (.array trees) := by
  rw [Histogram.foldl_countTree_eq_foldl_merge]
  refine ⟨?merged, ?array, ?totals⟩
  case merged =>
    intro histograms hperm
    refine Histogram.ext_get fun kind => ?_
    rw [Histogram.get_foldl_merge, Histogram.get_foldl_merge, (hperm.map (·.get kind)).sum_eq]
  case array =>
    refine Histogram.ext_get fun kind => ?_
    rw [Histogram.get_foldl_merge, Histogram.sum_get_ofTree, Histogram.get_merge,
      Histogram.get_ofTree_array]
  case totals =>
    intro results hperm
    refine Histogram.ext_get fun kind => ?_
    rw [get_totalOf, (hperm.map (·.get kind)).sum_eq, Histogram.sum_get_ofTree,
      Histogram.get_ofTree_array]

end SyntaxCensus
