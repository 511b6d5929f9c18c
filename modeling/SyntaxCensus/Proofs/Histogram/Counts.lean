import SyntaxCensus.Histogram.Basic
import SyntaxCensus.Proofs.Bindings

/-!
# Histograms by their counts

A histogram is known by its counts: counting up and merging are sums of counts,
and two histograms with the same count for every kind are equal.

Main results:

- `Histogram.ext_get`: histograms with the same counts are equal.
- `Histogram.get_merge`: merging adds the counts.
- `Histogram.ofPairs_entries`: a histogram is that of its entries.
-/

namespace SyntaxCensus
namespace Histogram

/-! ## Equality -/

/-- Histograms with the same entries are equal. -/
theorem ext_entries {a b : Histogram} (h : a.entries = b.entries) : a = b := by
  cases a
  cases b
  cases h
  rfl

/-- A kind has a value among the entries exactly if its count is not zero. -/
theorem lookup_entries (h : Histogram) (kind : String) :
    Keyed.lookup kind h.entries = if h.get kind = 0 then none else some (h.get kind) := by
  unfold get
  cases hlookup : Keyed.lookup kind h.entries with
  | none => simp
  | some count =>
      have hpos : 0 < count := h.positive _ (Keyed.mem_of_lookup hlookup)
      simp [Nat.pos_iff_ne_zero.mp hpos]

/-- Histograms with the same count for every kind are equal. -/
theorem ext_get {a b : Histogram} (h : ∀ kind, a.get kind = b.get kind) : a = b := by
  refine ext_entries (Keyed.ext_lookup a.sorted b.sorted fun kind => ?_)
  rw [lookup_entries, lookup_entries, h kind]

/-! ## Counts of sums -/

/-- What pairs of kind and count add to a kind. -/
def added (kind : String) (pairs : List (String × Nat)) : Nat :=
  pairs.foldr (fun pair sum => (if pair.1 = kind then pair.2 else 0) + sum) 0

theorem get_empty (kind : String) : empty.get kind = 0 := rfl

/-- Pairs that are added add to a kind what they have of it. -/
theorem get_addAll (h : Histogram) (pairs : List (String × Nat)) (kind : String) :
    (h.addAll pairs).get kind = h.get kind + added kind pairs := by
  induction pairs generalizing h with
  | nil => rfl
  | cons pair rest ih =>
      have hstep : h.addAll (pair :: rest) = (h.add pair.1 pair.2).addAll rest := rfl
      rw [hstep, ih, get_add]
      simp only [added, List.foldr_cons]
      omega

/-- Pairs none of which is of a kind add nothing to it. -/
theorem added_eq_zero {kind : String} {pairs : List (String × Nat)}
    (h : ∀ pair ∈ pairs, pair.1 ≠ kind) : added kind pairs = 0 := by
  induction pairs with
  | nil => rfl
  | cons pair rest ih =>
      have hrest := ih fun other hother => h other (List.mem_cons_of_mem _ hother)
      simp only [added, List.foldr_cons] at *
      simp [h pair List.mem_cons_self, hrest]

/-- Sorted pairs add the count that they bind a kind to. -/
theorem added_of_sorted {pairs : List (String × Nat)} (h : Keyed.Sorted pairs) (kind : String) :
    added kind pairs = (Keyed.lookup kind pairs).getD 0 := by
  induction pairs with
  | nil => rfl
  | cons pair rest ih =>
      have hcons := Keyed.sorted_cons.mp h
      have hstep : added kind (pair :: rest) =
          (if pair.1 = kind then pair.2 else 0) + added kind rest := rfl
      rw [hstep]
      by_cases hkind : pair.1 = kind
      · have hzero : added kind rest = 0 := added_eq_zero fun other hother heq =>
          String.lt_irrefl kind (by simpa [hkind, heq] using hcons.1 other hother)
        simp [Keyed.lookup, hkind, hzero]
      · simp [Keyed.lookup, hkind, ih hcons.2]

/-- The entries of a histogram add its counts. -/
theorem added_entries (h : Histogram) (kind : String) : added kind h.entries = h.get kind :=
  added_of_sorted h.sorted kind

/-- Merging adds the counts of both. -/
theorem get_merge (h other : Histogram) (kind : String) :
    (h.merge other).get kind = h.get kind + other.get kind := by
  rw [merge, get_addAll, added_entries]

/-- A histogram is that of its entries. -/
theorem ofPairs_entries (h : Histogram) : ofPairs h.entries = h := by
  refine ext_get fun kind => ?_
  rw [ofPairs, get_addAll, get_empty, added_entries, Nat.zero_add]

end Histogram
end SyntaxCensus
