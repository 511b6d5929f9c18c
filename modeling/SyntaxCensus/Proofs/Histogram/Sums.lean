import Mathlib.Algebra.BigOperators.Group.Finset.Basic
import Mathlib.Algebra.GroupWithZero.Nat
import SyntaxCensus.Proofs.Histogram.Counts

/-!
# Merging, summing and measuring histograms

Merging adds counts, so its order is of no consequence.  The size and the total
of a histogram are those of its counts: how many kinds occur, and how often they
occur together.

Main definitions:

- `Histogram.kinds`: the kinds that occur.

Main results:

- `Histogram.merge_comm`, `Histogram.merge_assoc`, `Histogram.empty_merge`: the
  laws of merging.
- `Histogram.get_sum`, `Histogram.total_sum`: the counts and the total of a sum are
  sums.
- `Histogram.size_eq_card`, `Histogram.total_eq_sum`: size and total by counts.
-/

namespace SyntaxCensus
namespace Histogram

/-! ## Merging -/

/-- The order of merging is of no consequence. -/
theorem merge_comm (a b : Histogram) : a.merge b = b.merge a := by
  refine ext_get fun kind => ?_
  rw [get_merge, get_merge, Nat.add_comm]

theorem merge_assoc (a b c : Histogram) : (a.merge b).merge c = a.merge (b.merge c) := by
  refine ext_get fun kind => ?_
  simp only [get_merge, Nat.add_assoc]

theorem merge_empty (h : Histogram) : h.merge empty = h := rfl

theorem empty_merge (h : Histogram) : empty.merge h = h := ofPairs_entries h

/-- Merging one histogram after another adds all their counts. -/
theorem get_foldl_merge (histograms : List Histogram) (start : Histogram) (kind : String) :
    (histograms.foldl merge start).get kind =
      start.get kind + (histograms.map (·.get kind)).sum := by
  induction histograms generalizing start with
  | nil => rfl
  | cons h rest ih =>
      rw [List.foldl_cons, ih, get_merge, List.map_cons, List.sum_cons, Nat.add_assoc]

/-- The counts of a sum are sums of counts. -/
theorem get_sum (histograms : List Histogram) (kind : String) :
    (sum histograms).get kind = (histograms.map (·.get kind)).sum := by
  rw [sum, get_foldl_merge, get_empty, Nat.zero_add]

/-! ## The sum of all counts -/

/-- The total is the sum of the counts of the entries. -/
theorem total_eq_sum_counts (h : Histogram) : h.total = (h.entries.map Prod.snd).sum := by
  rw [total]
  induction h.entries with
  | nil => rfl
  | cons entry rest ih => rw [List.foldr_cons, List.map_cons, List.sum_cons, ih]

/-- Counting a key up raises the sum by as much, whether it was there or not. -/
theorem sum_insertWith (kind : String) (count : Nat) (entries : List (String × Nat)) :
    ((Keyed.insertWith kind count (· + count) entries).map Prod.snd).sum =
      (entries.map Prod.snd).sum + count := by
  induction entries with
  | nil => simp [Keyed.insertWith]
  | cons entry rest ih =>
      obtain ⟨key, number⟩ := entry
      simp only [Keyed.insertWith]
      split
      · simp only [List.map_cons, List.sum_cons]
        omega
      · split
        · simp only [List.map_cons, List.sum_cons]
          omega
        · simp only [List.map_cons, List.sum_cons, ih]
          omega

/-- A count that is added is added to the total. -/
theorem total_add (h : Histogram) (kind : String) (count : Nat) :
    (h.add kind count).total = h.total + count := by
  unfold add
  split
  · rw [total_eq_sum_counts, total_eq_sum_counts, sum_insertWith]
  · omega

theorem total_addAll (h : Histogram) (pairs : List (String × Nat)) :
    (h.addAll pairs).total = h.total + (pairs.map Prod.snd).sum := by
  induction pairs generalizing h with
  | nil => rfl
  | cons pair rest ih =>
      have hstep : h.addAll (pair :: rest) = (h.add pair.1 pair.2).addAll rest := rfl
      rw [hstep, ih, total_add, List.map_cons, List.sum_cons, Nat.add_assoc]

/-- Merging adds the totals, also where kinds are counted in both. -/
theorem total_merge (h other : Histogram) : (h.merge other).total = h.total + other.total := by
  rw [merge, total_addAll, ← total_eq_sum_counts]

/-- The total of a merger is the sum of the totals. -/
theorem total_foldl_merge (histograms : List Histogram) (start : Histogram) :
    (histograms.foldl merge start).total = start.total + (histograms.map total).sum := by
  induction histograms generalizing start with
  | nil => rfl
  | cons h rest ih =>
      rw [List.foldl_cons, ih, total_merge, List.map_cons, List.sum_cons, Nat.add_assoc]

/-- The total of a sum is the sum of the totals. -/
theorem total_sum (histograms : List Histogram) :
    (sum histograms).total = (histograms.map total).sum := by
  rw [sum, total_foldl_merge]
  exact Nat.zero_add _

/-! ## The kinds that occur -/

/-- An entry holds the count of its kind. -/
theorem get_of_mem {h : Histogram} {entry : String × Nat} (hmem : entry ∈ h.entries) :
    h.get entry.1 = entry.2 := by
  rw [get, Keyed.lookup_of_mem h.sorted hmem]
  rfl

/-- A kind has an entry exactly if it occurs. -/
theorem mem_map_entries_iff (h : Histogram) (kind : String) :
    kind ∈ h.entries.map Prod.fst ↔ 0 < h.get kind := by
  rw [List.mem_map]
  constructor
  · rintro ⟨entry, hmem, rfl⟩
    rw [get_of_mem hmem]
    exact h.positive entry hmem
  · intro hpos
    refine ⟨(kind, h.get kind), Keyed.mem_of_lookup ?_, rfl⟩
    rw [lookup_entries, if_neg (Nat.pos_iff_ne_zero.mp hpos)]

/-- The kinds that occur. -/
def kinds (h : Histogram) : Finset String :=
  (h.entries.map Prod.fst).toFinset

/-- Kinds are held with a positive count only. -/
theorem mem_kinds_iff (h : Histogram) (kind : String) : kind ∈ h.kinds ↔ 0 < h.get kind := by
  rw [kinds, List.mem_toFinset, mem_map_entries_iff]

/-- No kind has two entries. -/
theorem nodup_map_entries (h : Histogram) : (h.entries.map Prod.fst).Nodup := by
  refine List.pairwise_map.mpr (h.sorted.imp ?_)
  intro first second hlt heq
  exact String.lt_irrefl second.1 (heq ▸ hlt)

/-- The size is the number of kinds that occur. -/
theorem size_eq_card (h : Histogram) : h.size = h.kinds.card := by
  rw [kinds, List.toFinset_card_of_nodup h.nodup_map_entries, List.length_map, size]

/-- The total is the sum of the counts of the kinds that occur. -/
theorem total_eq_sum (h : Histogram) : h.total = ∑ kind ∈ h.kinds, h.get kind := by
  have hcounts : (h.entries.map Prod.fst).map h.get = h.entries.map Prod.snd := by
    rw [List.map_map]
    exact List.map_congr_left fun entry hmem => get_of_mem hmem
  rw [kinds, List.sum_toFinset h.get h.nodup_map_entries, hcounts, total_eq_sum_counts]

/-- A histogram is empty exactly if its total is zero. -/
theorem isEmpty_iff_total (h : Histogram) : h.isEmpty = true ↔ h.total = 0 := by
  rw [isEmpty, total]
  cases hentries : h.entries with
  | nil => simp
  | cons entry rest =>
      have hpos : 0 < entry.2 := h.positive entry (hentries ▸ List.mem_cons_self)
      simp only [List.isEmpty_cons, Bool.false_eq_true, false_iff, List.foldr_cons]
      omega

end Histogram
end SyntaxCensus
