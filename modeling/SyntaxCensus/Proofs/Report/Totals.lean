import Mathlib.Algebra.Order.BigOperators.Group.List
import Mathlib.Algebra.Order.Ring.Nat
import SyntaxCensus.Proofs.Histogram.Sums
import SyntaxCensus.Report.Basic

/-!
# Totals of a corpus

The total counts every kind as often as all compiled files do together.  So it
depends on nothing but the histograms of these files: not on their order, not on
the files that failed, and not on how the corpus is cut in two.

Main results:

- `get_totalOf`: the counts of the total.
- `Report.isConsistent_iff`: when the totals of a report are right.
- `totalOf_counts_compiled`: the total as a sum, and what it does not depend on.
-/

namespace SyntaxCensus

/-! ## Counts of the total -/

/-- The total counts what all compiled files count together. -/
theorem get_totalOf (results : List FileResult) (kind : String) :
    (totalOf results).get kind =
      ((results.filterMap FileResult.histogram?).map (·.get kind)).sum :=
  Histogram.get_sum _ kind

/-- No compiled file counts more than the total. -/
theorem get_le_totalOf {results : List FileResult} {h : Histogram}
    (hmem : h ∈ results.filterMap FileResult.histogram?) (kind : String) :
    h.get kind ≤ (totalOf results).get kind := by
  rw [get_totalOf]
  exact List.le_sum_of_mem (List.mem_map_of_mem hmem)

/-- A kind occurs in the total exactly if it occurs in a compiled file. -/
theorem get_totalOf_pos_iff (results : List FileResult) (kind : String) :
    0 < (totalOf results).get kind ↔
      ∃ file h, FileResult.compiled file h ∈ results ∧ 0 < h.get kind := by
  rw [get_totalOf, List.sum_pos_iff_exists_pos_nat]
  constructor
  · rintro ⟨count, hcount, hpos⟩
    obtain ⟨h, hmem, rfl⟩ := List.mem_map.mp hcount
    obtain ⟨result, hresult, hsome⟩ := List.mem_filterMap.mp hmem
    cases result with
    | compiled file h' =>
        obtain rfl := Option.some.inj hsome
        exact ⟨file, h', hresult, hpos⟩
    | failed file reason => simp [FileResult.histogram?] at hsome
  · rintro ⟨file, h, hresult, hpos⟩
    exact ⟨h.get kind, List.mem_map_of_mem (List.mem_filterMap.mpr ⟨_, hresult, rfl⟩), hpos⟩

/-! ## What the total does not depend on -/

/-- Files with the same histograms, in whatever order, have the same total. -/
theorem totalOf_eq_of_perm {results others : List FileResult}
    (h : (results.filterMap FileResult.histogram?).Perm
      (others.filterMap FileResult.histogram?)) : totalOf results = totalOf others := by
  refine Histogram.ext_get fun kind => ?_
  rw [get_totalOf, get_totalOf]
  exact (h.map _).sum_eq

/-- The histograms are those of the files that did not fail. -/
theorem filterMap_histogram?_filter (results : List FileResult) :
    (results.filter (!·.isFailed)).filterMap FileResult.histogram? =
      results.filterMap FileResult.histogram? := by
  induction results with
  | nil => rfl
  | cons result rest ih =>
      cases result with
      | compiled file h =>
          rw [List.filter_cons_of_pos rfl, List.filterMap_cons, List.filterMap_cons, ih]
      | failed file reason =>
          rw [List.filter_cons_of_neg (by simp [FileResult.isFailed]), ih]
          rfl

/-- The total of two corpora is the merged total of both. -/
theorem totalOf_append (first second : List FileResult) :
    totalOf (first ++ second) = (totalOf first).merge (totalOf second) := by
  refine Histogram.ext_get fun kind => ?_
  rw [Histogram.get_merge, get_totalOf, get_totalOf, get_totalOf, List.filterMap_append,
    List.map_append, List.sum_append]

/-- The totals of a report are right exactly if they have the sums of the
counts of all compiled files. -/
theorem Report.isConsistent_iff (report : Report) :
    report.isConsistent = true ↔
      ∀ kind, report.totals.get kind =
        ((report.files.filterMap FileResult.histogram?).map (·.get kind)).sum := by
  rw [isConsistent, decide_eq_true_iff]
  constructor
  · intro heq kind
    rw [← heq, get_totalOf]
  · intro hcounts
    refine Histogram.ext_get fun kind => ?_
    rw [get_totalOf, hcounts]

/-- The total has, for every kind, the sum of the counts of all compiled files.
It is the same for the files in another order and with other failures among
them.  The total of two lists of files is both totals merged, in either order;
merging is associative and commutative, and merging nothing changes nothing.
The name of a failed file is a kind of the total only if a compiled file counts
a kind of this name. -/
theorem totalOf_counts_compiled (results : List FileResult) :
    (∀ kind, (totalOf results).get kind =
        ((results.filterMap FileResult.histogram?).map (·.get kind)).sum) ∧
      (∀ others, results.Perm others → totalOf others = totalOf results) ∧
      (∀ others : List FileResult,
        others.filter (!·.isFailed) = results.filter (!·.isFailed) →
          totalOf others = totalOf results) ∧
      (∀ others, totalOf (results ++ others) = (totalOf results).merge (totalOf others) ∧
        totalOf (results ++ others) = (totalOf others).merge (totalOf results)) ∧
      (∀ a b c : Histogram, (a.merge b).merge c = a.merge (b.merge c) ∧
        a.merge b = b.merge a ∧ a.merge .empty = a ∧ Histogram.empty.merge a = a) ∧
      ∀ file reason, FileResult.failed file reason ∈ results →
        file ∈ (totalOf results).entries.map Prod.fst →
          ∃ other h, FileResult.compiled other h ∈ results ∧ 0 < h.get file := by
  refine ⟨get_totalOf results, ?order, ?failures, ?append, ?merge, ?names⟩
  case order =>
    intro others hperm
    exact totalOf_eq_of_perm (hperm.symm.filterMap _)
  case failures =>
    intro others hcompiled
    refine totalOf_eq_of_perm (List.Perm.of_eq ?_)
    rw [← filterMap_histogram?_filter others, hcompiled, filterMap_histogram?_filter]
  case append =>
    intro others
    exact ⟨totalOf_append results others,
      (totalOf_append results others).trans (Histogram.merge_comm _ _)⟩
  case merge =>
    intro a b c
    exact ⟨Histogram.merge_assoc a b c, Histogram.merge_comm a b, Histogram.merge_empty a,
      Histogram.empty_merge a⟩
  case names =>
    intro file reason _ hkey
    exact (get_totalOf_pos_iff results file).mp
      (((totalOf results).mem_map_entries_iff file).mp hkey)

end SyntaxCensus
