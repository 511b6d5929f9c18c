import SyntaxCensus.Json.Mismatch

/-!
# Histograms of node kinds

How often each kind of node occurs.  A kind that never occurs has no entry, so
two histograms with the same counts are the same histogram, whatever was
counted first.

Counts are natural numbers.  They stand for counts of 64 bits whose sums, the
total over all kinds included, stay below `2 ^ 64`: as far as that holds, adding
them up never wraps around, and what is proved of these counts is true of those.
A document holds no larger ones, see `Number.maxWhole`.

Main definitions:

- `Histogram.add`, `Histogram.record`, `Histogram.merge`: counting up.
- `Histogram.get`: the count of a kind, zero if it has no entry.
- `Histogram.toJson` and `Histogram.ofJson`: the object of counts.

Main results:

- `Histogram.get_add`: adding changes the count of its own kind only.
-/

namespace SyntaxCensus

/-- A count for each of finitely many kinds, in ascending order of the kinds,
none of them zero.  Counts of 64 bits are these numbers up to `Number.maxWhole`. -/
structure Histogram where
  entries : List (String × Nat)
  sorted : Keyed.Sorted entries
  positive : ∀ entry ∈ entries, 0 < entry.2
  deriving DecidableEq

namespace Histogram

/-- No kind occurs. -/
def empty : Histogram where
  entries := []
  sorted := Keyed.sorted_nil
  positive := by simp

instance : Inhabited Histogram := ⟨empty⟩

/-- The count of a kind; zero if it has no entry. -/
def get (h : Histogram) (kind : String) : Nat :=
  (Keyed.lookup kind h.entries).getD 0

/-- How many kinds occur. -/
def size (h : Histogram) : Nat :=
  h.entries.length

/-- The sum of all counts.  It is the sum in 64 bits as long as it stays below
`2 ^ 64`, and then so do all counts that were added up to it. -/
def total (h : Histogram) : Nat :=
  h.entries.foldr (fun entry sum => entry.2 + sum) 0

/-- No kind occurs in it. -/
def isEmpty (h : Histogram) : Bool :=
  h.entries.isEmpty

theorem positive_insertWith {kind : String} {count : Nat} (hcount : 0 < count)
    {entries : List (String × Nat)} (h : ∀ entry ∈ entries, 0 < entry.2) :
    ∀ entry ∈ Keyed.insertWith kind count (· + count) entries, 0 < entry.2 := by
  induction entries with
  | nil => simp [Keyed.insertWith, hcount]
  | cons head rest ih =>
      obtain ⟨k, n⟩ := head
      have hrest := ih fun entry hentry => h entry (List.mem_cons_of_mem _ hentry)
      intro entry hentry
      simp only [Keyed.insertWith] at hentry
      split at hentry
      · rcases List.mem_cons.mp hentry with hentry | hentry
        · rw [hentry]; exact hcount
        · exact h entry hentry
      · split at hentry
        · rcases List.mem_cons.mp hentry with hentry | hentry
          · rw [hentry]; exact Nat.lt_of_lt_of_le hcount (Nat.le_add_left count n)
          · exact h entry (List.mem_cons_of_mem _ hentry)
        · rcases List.mem_cons.mp hentry with hentry | hentry
          · rw [hentry]; exact h (k, n) List.mem_cons_self
          · exact hrest entry hentry

/-- Count a kind up; counting up by zero changes nothing.  In 64 bits the new count
is the same as long as it stays below `2 ^ 64`. -/
def add (h : Histogram) (kind : String) (count : Nat) : Histogram :=
  if hcount : 0 < count then
    { entries := Keyed.insertWith kind count (· + count) h.entries
      sorted := Keyed.sorted_insertWith h.sorted
      positive := positive_insertWith hcount h.positive }
  else h

/-- Count one occurrence of a kind: a kind without an entry gets one of zero, and
then its count is one more. -/
def record (h : Histogram) (kind : String) : Histogram where
  entries := Keyed.insertWith kind (0 + 1) (· + 1) h.entries
  sorted := Keyed.sorted_insertWith h.sorted
  positive := positive_insertWith Nat.one_pos h.positive

/-- One occurrence more is a count of one more. -/
theorem record_eq_add (h : Histogram) (kind : String) : h.record kind = h.add kind 1 := by
  rw [record, add, dif_pos Nat.one_pos]

/-- Count all pairs of kind and count up, in order. -/
def addAll (h : Histogram) (pairs : List (String × Nat)) : Histogram :=
  pairs.foldl (fun sum pair => sum.add pair.1 pair.2) h

/-- Add the counts of another histogram. -/
def merge (h other : Histogram) : Histogram :=
  h.addAll other.entries

/-- The histogram of pairs of kind and count; the counts of one kind add up. -/
def ofPairs (pairs : List (String × Nat)) : Histogram :=
  empty.addAll pairs

/-- The sum of histograms. -/
def sum (histograms : List Histogram) : Histogram :=
  histograms.foldl merge empty

/-- Adding changes the count of its own kind only. -/
theorem get_add (h : Histogram) (kind k : String) (count : Nat) :
    (h.add kind count).get k = h.get k + if kind = k then count else 0 := by
  unfold add
  split
  · simp only [get]
    rw [Keyed.lookup_insertWith _ _ _ _ h.sorted]
    by_cases hk : kind = k
    · subst hk
      cases Keyed.lookup kind h.entries <;> simp
    · simp [hk]
  · have : count = 0 := by omega
    simp [this]

/-! ## As a document value -/

/-- A count as a value. -/
def countJson (count : Nat) : Json :=
  .number (.whole count)

/-- The object that binds each kind to its count. -/
def toJson (h : Histogram) : Json :=
  .object (h.entries.map fun entry => (entry.1, countJson entry.2))

/-- The count that a value stands for. -/
def countOf : Json → Except Mismatch Nat
  | .number (.whole value) =>
      if value < 0 then .error (.negativeCount value) else .ok value.toNat
  | other => .error (.notCount (.ofJson other))

/-- The counts of members in order, up to the first one that is no count. -/
def countsOf : List (String × Json) → Except Mismatch (List (String × Nat))
  | [] => .ok []
  | (kind, value) :: rest =>
      match countOf value with
      | .error reason => .error reason
      | .ok count =>
          match countsOf rest with
          | .error reason => .error reason
          | .ok counts => .ok ((kind, count) :: counts)

/-- The histogram of an object of counts; counts of zero are left out. -/
def ofJson : Json → Except Mismatch Histogram
  | .object members => (countsOf members).map ofPairs
  | other => .error (.notMap (.ofJson other))

end Histogram
end SyntaxCensus
