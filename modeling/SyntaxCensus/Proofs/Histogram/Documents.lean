import SyntaxCensus.Proofs.Histogram.Counts

/-!
# Which values are histograms

A histogram is read from an object whose values are all counts, whole numbers
that are not negative; nothing else is one.  Counts of zero are read and leave
no trace.

Main definitions:

- `Json.count?`, `Json.counts?`: the counts that a value holds, by its form.

Main results:

- `Histogram.ofJson_eq_ok_iff`: the values that histograms are read from.
- `Histogram.toOption_ofJson`: what is read is the histogram of the counts.
-/

namespace SyntaxCensus

/-! ## Counts by the form of a value -/

namespace Json

/-- The count that a value is. -/
def count? : Json → Option Nat
  | .number (.whole value) => if 0 ≤ value then some value.toNat else none
  | _ => none

/-- The keys and counts of an object all of whose values are counts. -/
def counts? : Json → Option (List (String × Nat))
  | .object members =>
      if members.all fun member => member.2.count?.isSome then
        some (members.map fun member => (member.1, member.2.count?.getD 0))
      else none
  | _ => none

/-- A count is a whole number that is not negative. -/
theorem count?_eq_some_iff {value : Json} {count : Nat} :
    value.count? = some count ↔ value = Histogram.countJson count := by
  constructor
  · intro h
    unfold count? at h
    split at h
    · split at h
      · rename_i hnonneg
        obtain rfl := Option.some.inj h
        rw [Histogram.countJson, Int.toNat_of_nonneg hnonneg]
      · cases h
    · cases h
  · rintro rfl
    simp [count?, Histogram.countJson]

/-- The objects all of whose values are counts. -/
theorem counts?_eq_some_iff {value : Json} {counts : List (String × Nat)} :
    value.counts? = some counts ↔
      value = .object (counts.map fun entry => (entry.1, Histogram.countJson entry.2)) := by
  constructor
  · intro h
    unfold counts? at h
    split at h
    · rename_i members
      split at h
      · rename_i hall
        obtain rfl := Option.some.inj h
        have hmember : ∀ member ∈ members,
            (member.1, Histogram.countJson (member.2.count?.getD 0)) = member := by
          intro member hmem
          obtain ⟨count, hcount⟩ :=
            Option.isSome_iff_exists.mp (List.all_eq_true.mp hall member hmem)
          rw [hcount, Option.getD_some, ← count?_eq_some_iff.mp hcount]
        rw [List.map_map]
        exact congrArg Json.object ((List.map_congr_left hmember).trans (List.map_id members)).symm
      · cases h
    · cases h
  · rintro rfl
    have hcount : ∀ count, (Histogram.countJson count).count? = some count := fun count =>
      count?_eq_some_iff.mpr rfl
    simp [counts?, hcount, Function.comp_def]

end Json

namespace Histogram

/-! ## Counts that are read -/

theorem countOf_countJson (count : Nat) : countOf (countJson count) = .ok count := by
  simp [countOf, countJson]

/-- The members of an object of counts give the counts. -/
theorem countsOf_countJson (entries : List (String × Nat)) :
    countsOf (entries.map fun entry => (entry.1, countJson entry.2)) = .ok entries := by
  induction entries with
  | nil => rfl
  | cons entry rest ih => simp [countsOf, countOf_countJson, ih]

/-- The values that counts are read from. -/
theorem countOf_eq_ok_iff {value : Json} {count : Nat} :
    countOf value = .ok count ↔ value = countJson count := by
  refine ⟨fun h => ?_, fun h => h ▸ countOf_countJson count⟩
  unfold countOf at h
  split at h
  · split at h
    · cases h
    · rename_i hnonneg
      obtain rfl := Except.ok.inj h
      rw [countJson, Int.toNat_of_nonneg (by omega)]
  · cases h

/-- The members that counts are read from. -/
theorem countsOf_eq_ok_iff {members : List (String × Json)} {counts : List (String × Nat)} :
    countsOf members = .ok counts ↔
      members = counts.map fun entry => (entry.1, countJson entry.2) := by
  refine ⟨fun h => ?_, fun h => h ▸ countsOf_countJson counts⟩
  induction members generalizing counts with
  | nil =>
      obtain rfl := Except.ok.inj h
      rfl
  | cons member rest ih =>
      obtain ⟨kind, value⟩ := member
      rw [countsOf] at h
      cases hvalue : countOf value with
      | error reason =>
          rw [hvalue] at h
          cases h
      | ok count =>
          cases hrest : countsOf rest with
          | error reason =>
              rw [hvalue, hrest] at h
              cases h
          | ok others =>
              rw [hvalue, hrest] at h
              obtain rfl := Except.ok.inj h
              rw [countOf_eq_ok_iff.mp hvalue, ih hrest]
              rfl

/-- The values that histograms are read from. -/
theorem ofJson_eq_ok_iff {value : Json} {h : Histogram} :
    ofJson value = .ok h ↔
      ∃ counts : List (String × Nat),
        value = .object (counts.map fun entry => (entry.1, countJson entry.2)) ∧
          h = ofPairs counts := by
  constructor
  · intro hread
    cases value with
    | object members =>
        rw [ofJson] at hread
        cases hcounts : countsOf members with
        | error reason =>
            rw [hcounts] at hread
            cases hread
        | ok counts =>
            rw [hcounts] at hread
            obtain rfl := Except.ok.inj hread
            exact ⟨counts, by rw [countsOf_eq_ok_iff.mp hcounts], rfl⟩
    | null | bool _ | number _ | string _ | array _ => cases hread
  · rintro ⟨counts, rfl, rfl⟩
    rw [ofJson, countsOf_countJson]
    rfl

/-- What is read from a value is the histogram of the counts that it holds. -/
theorem toOption_ofJson (value : Json) :
    (ofJson value).toOption = value.counts?.map ofPairs := by
  cases hcounts : value.counts? with
  | some counts =>
      have hread : ofJson value = .ok (ofPairs counts) :=
        ofJson_eq_ok_iff.mpr ⟨counts, Json.counts?_eq_some_iff.mp hcounts, rfl⟩
      rw [hread]
      rfl
  | none =>
      cases hread : ofJson value with
      | error reason => rfl
      | ok h =>
          obtain ⟨counts, hvalue, _⟩ := ofJson_eq_ok_iff.mp hread
          rw [Json.counts?_eq_some_iff.mpr hvalue] at hcounts
          cases hcounts

end Histogram
end SyntaxCensus
