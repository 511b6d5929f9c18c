import Mathlib.Algebra.GroupWithZero.Nat
import SyntaxCensus.Proofs.Histogram.Documents
import SyntaxCensus.Proofs.Json.Reading
import SyntaxCensus.Proofs.Report.Totals

/-!
# Which documents are reports

What an entry of a report stands for can be told from its form: an object with one
key and a text is a failure, an object of whole numbers is a histogram, and nothing
else is an entry.

Main definitions:

- `Json.IsFailure`, `Json.IsStatistics`: the two forms of an entry.
- `Json.countAt`: the count under a kind, zero if there is none.

Main results:

- `Histogram.ofJson_eq_ok_iff_tells`: the histogram that a value tells.
- `FileResult.ofJson_eq_ok_iff`: what an entry stands for.
- `Report.ofJson_eq_ok_iff`: the documents that are reports.
- `Report.exists_isConsistent_iff`: the documents that are reports with right
  totals.
-/

namespace SyntaxCensus

/-! ## Forms of entries -/

namespace Json

/-- An object with one key, whose value is a text. -/
inductive IsFailure : Json → Prop
  | intro (file reason : String) : IsFailure (.object [(file, .string reason)])

/-- An object whose values are all whole numbers of 64 bits without a sign. -/
def IsStatistics (value : Json) : Prop :=
  ∃ members, value = .object members ∧
    ∀ member ∈ members, ∃ count : Nat, count ≤ Number.maxWhole ∧
      member.2 = .number (.whole count)

/-- The count under a kind, zero if there is none. -/
def countAt (kind : String) (value : Json) : Nat :=
  match value.member? kind with
  | some (.number (.whole count)) => count.toNat
  | _ => 0

end Json

namespace FileResult

/-- The values that stand for a failure. -/
theorem failure?_eq_some_iff {value : Json} {file reason : String} :
    failure? value = some (file, reason) ↔ value = .object [(file, .string reason)] := by
  constructor
  · intro h
    unfold failure? at h
    split at h
    · obtain ⟨rfl, rfl⟩ := Prod.mk.inj (Option.some.inj h)
      rfl
    · cases h
  · rintro rfl
    rfl

/-- A failure is found exactly in what has the form of one. -/
theorem isSome_failure?_iff (value : Json) :
    (failure? value).isSome = true ↔ value.IsFailure := by
  constructor
  · intro h
    obtain ⟨⟨file, reason⟩, hsome⟩ := Option.isSome_iff_exists.mp h
    rw [failure?_eq_some_iff.mp hsome]
    exact .intro file reason
  · rintro ⟨file, reason⟩
    rfl

instance (value : Json) : Decidable value.IsFailure :=
  decidable_of_iff _ (isSome_failure?_iff value)

end FileResult

/-! ## Histograms -/

namespace Histogram

/-- The members of an object of counts are sorted as the counts are. -/
theorem sorted_map_countJson (counts : List (String × Nat)) :
    Keyed.Sorted (counts.map fun entry => (entry.1, countJson entry.2)) ↔
      Keyed.Sorted counts := by
  unfold Keyed.Sorted
  exact List.pairwise_map

end Histogram

namespace Json

/-- A value tells a histogram: it is an object of counts, and these are the counts
of the histogram. -/
def Tells (value : Json) (h : Histogram) : Prop :=
  value.IsStatistics ∧ ∀ kind, h.get kind = value.countAt kind

/-- The counts of sorted members are those of their histogram. -/
theorem countAt_object {counts : List (String × Nat)} (hsorted : Keyed.Sorted counts)
    (kind : String) :
    countAt kind (.object (counts.map fun entry => (entry.1, Histogram.countJson entry.2))) =
      (Histogram.ofPairs counts).get kind := by
  rw [Histogram.ofPairs, Histogram.get_addAll, Histogram.get_empty, Nat.zero_add,
    Histogram.added_of_sorted hsorted, countAt, member?]
  induction counts with
  | nil => rfl
  | cons entry rest ih =>
      by_cases hkind : entry.1 = kind
      · simp [Keyed.lookup, hkind, Histogram.countJson]
      · simpa [Keyed.lookup, hkind] using ih (Keyed.sorted_cons.mp hsorted).2

end Json

namespace Histogram

/-- Members whose values are counts come from a list of counts. -/
theorem exists_counts {members : List (String × Json)}
    (h : ∀ member ∈ members, ∃ count : Nat, count ≤ Number.maxWhole ∧
      member.2 = .number (.whole count)) :
    ∃ counts : List (String × Nat),
      members = counts.map fun entry => (entry.1, countJson entry.2) := by
  induction members with
  | nil => exact ⟨[], rfl⟩
  | cons member rest ih =>
      obtain ⟨⟨count, _, hcount⟩, hrest⟩ := List.forall_mem_cons.mp h
      obtain ⟨counts, rfl⟩ := ih hrest
      exact ⟨(member.1, count) :: counts, congrArg (· :: _) (Prod.ext rfl hcount)⟩

/-- The histogram that is read from a value is the one that the value tells. -/
theorem ofJson_eq_ok_iff_tells {value : Json} (hstored : value.Stored) {h : Histogram} :
    ofJson value = .ok h ↔ value.Tells h := by
  rw [ofJson_eq_ok_iff]
  constructor
  · rintro ⟨counts, rfl, rfl⟩
    cases hstored with
    | object sorted inner =>
        have hsorted := (sorted_map_countJson counts).mp sorted
        refine ⟨⟨_, rfl, fun member hmember => ?_⟩,
          fun kind => (Json.countAt_object hsorted kind).symm⟩
        obtain ⟨entry, hentry, rfl⟩ := List.mem_map.mp hmember
        have hinner := inner _ hmember
        cases hinner with
        | number fits => exact ⟨entry.2, Int.ofNat_le.mp fits.2, rfl⟩
  · rintro ⟨⟨members, rfl, hcounts⟩, hget⟩
    obtain ⟨counts, rfl⟩ := exists_counts hcounts
    refine ⟨counts, rfl, ext_get fun kind => ?_⟩
    cases hstored with
    | object sorted _ =>
        rw [hget, Json.countAt_object ((sorted_map_countJson counts).mp sorted)]

/-- A value is read as a histogram exactly if it is an object of counts. -/
theorem exists_ofJson_iff {value : Json} (hstored : value.Stored) :
    (∃ h, ofJson value = .ok h) ↔ value.IsStatistics := by
  constructor
  · rintro ⟨h, hread⟩
    exact ((ofJson_eq_ok_iff_tells hstored).mp hread).1
  · rintro ⟨members, rfl, hcounts⟩
    obtain ⟨counts, rfl⟩ := exists_counts hcounts
    exact ⟨ofPairs counts, ofJson_eq_ok_iff.mpr ⟨counts, rfl, rfl⟩⟩

end Histogram

/-! ## Entries -/

namespace FileResult

/-- A text is not a count. -/
theorem not_isStatistics_of_isFailure {entry : Json} (h : entry.IsFailure) :
    ¬ entry.IsStatistics := by
  obtain ⟨file, reason⟩ := h
  rintro ⟨members, hmembers, hcounts⟩
  obtain rfl := Json.object.inj hmembers
  obtain ⟨count, _, hcount⟩ := hcounts _ List.mem_cons_self
  cases hcount

/-- What an entry stands for: the failure or the histogram that it tells. -/
theorem ofJson_eq_ok_iff {entry : Json} (hstored : entry.Stored) {result : FileResult} :
    ofJson entry = .ok result ↔
      (∃ file reason, entry = .object [(file, .string reason)] ∧ result = .failed file reason) ∨
        ∃ h, entry.Tells h ∧ result = .compiled "" h := by
  unfold ofJson
  cases hfailure : failure? entry with
  | some failure =>
      obtain ⟨file, reason⟩ := failure
      obtain rfl := failure?_eq_some_iff.mp hfailure
      constructor
      · intro h
        exact .inl ⟨file, reason, rfl, (Except.ok.inj h).symm⟩
      · rintro (⟨_, _, heq, rfl⟩ | ⟨h, htells, rfl⟩)
        · cases heq
          rfl
        · exact absurd htells.1 (not_isStatistics_of_isFailure (.intro file reason))
  | none =>
      constructor
      · intro hmap
        cases hread : Histogram.ofJson entry with
        | error reason =>
            rw [hread] at hmap
            cases hmap
        | ok h =>
            rw [hread] at hmap
            obtain rfl := Except.ok.inj hmap
            exact .inr ⟨h, (Histogram.ofJson_eq_ok_iff_tells hstored).mp hread, rfl⟩
      · rintro (⟨file, reason, rfl, _⟩ | ⟨h, htells, rfl⟩)
        · cases hfailure
        · rw [(Histogram.ofJson_eq_ok_iff_tells hstored).mpr htells]
          rfl

/-- An entry stands for an outcome exactly if it has one of the two forms. -/
theorem exists_ofJson_iff {entry : Json} (hstored : entry.Stored) :
    (∃ result, ofJson entry = .ok result) ↔ entry.IsFailure ∨ entry.IsStatistics := by
  constructor
  · rintro ⟨result, hread⟩
    obtain ⟨file, reason, rfl, _⟩ | ⟨h, htells, _⟩ := (ofJson_eq_ok_iff hstored).mp hread
    · exact .inl (.intro file reason)
    · exact .inr htells.1
  · rintro (⟨file, reason⟩ | hstatistics)
    · exact ⟨.failed file reason, rfl⟩
    · obtain ⟨h, hread⟩ := (Histogram.exists_ofJson_iff hstored).mpr hstatistics
      have htells := (Histogram.ofJson_eq_ok_iff_tells hstored).mp hread
      exact ⟨.compiled "" h, (ofJson_eq_ok_iff hstored).mpr (.inr ⟨h, htells, rfl⟩)⟩

end FileResult

/-! ## Documents -/

namespace Report

/-- All entries are read, the first one and the others. -/
theorem filesOf_cons_eq_ok_iff {index : Nat} {entry : Json} {rest : List Json}
    {files : List FileResult} :
    filesOf index (entry :: rest) = .ok files ↔
      ∃ file others, FileResult.ofJson entry = .ok file ∧
        filesOf (index + 1) rest = .ok others ∧ files = file :: others := by
  rw [filesOf]
  cases FileResult.ofJson entry with
  | error reason => simp
  | ok file =>
      cases filesOf (index + 1) rest with
      | error fault => simp
      | ok others => simp [eq_comm]

/-- Entries are read exactly if every one of them has one of the two forms. -/
theorem exists_filesOf_iff {index : Nat} {entries : List Json}
    (hstored : ∀ entry ∈ entries, entry.Stored) :
    (∃ files, filesOf index entries = .ok files) ↔
      ∀ entry ∈ entries, entry.IsFailure ∨ entry.IsStatistics := by
  induction entries generalizing index with
  | nil => simp [filesOf]
  | cons entry rest ih =>
      obtain ⟨hentry, hrest⟩ := List.forall_mem_cons.mp hstored
      rw [List.forall_mem_cons, ← FileResult.exists_ofJson_iff hentry, ← @ih (index + 1) hrest]
      constructor
      · rintro ⟨files, hfiles⟩
        obtain ⟨file, others, hfile, hothers, _⟩ := filesOf_cons_eq_ok_iff.mp hfiles
        exact ⟨⟨file, hfile⟩, ⟨others, hothers⟩⟩
      · rintro ⟨⟨file, hfile⟩, ⟨others, hothers⟩⟩
        exact ⟨_, filesOf_cons_eq_ok_iff.mpr ⟨file, others, hfile, hothers, rfl⟩⟩

/-- The counts of compiled files are those of the entries that are no
failures. -/
theorem map_get_of_filesOf {index : Nat} {entries : List Json} {files : List FileResult}
    (hstored : ∀ entry ∈ entries, entry.Stored) (h : filesOf index entries = .ok files)
    (kind : String) :
    (files.filterMap FileResult.histogram?).map (·.get kind) =
      (entries.filter fun entry => ¬ entry.IsFailure).map (Json.countAt kind) := by
  induction entries generalizing index files with
  | nil =>
      obtain rfl := Except.ok.inj h
      rfl
  | cons entry rest ih =>
      obtain ⟨hentry, hrest⟩ := List.forall_mem_cons.mp hstored
      obtain ⟨file, others, hfile, hothers, rfl⟩ := filesOf_cons_eq_ok_iff.mp h
      have hmore := ih hrest hothers
      obtain ⟨name, reason, rfl, rfl⟩ | ⟨h, htells, rfl⟩ :=
        (FileResult.ofJson_eq_ok_iff hentry).mp hfile
      · rw [List.filter_cons_of_neg (by simpa using Json.IsFailure.intro name reason)]
        exact hmore
      · have hno : ¬ entry.IsFailure := fun hfailure =>
          FileResult.not_isStatistics_of_isFailure hfailure htells.1
        rw [List.filter_cons_of_pos (by simpa using hno), List.map_cons, ← htells.2 kind,
          ← hmore]
        rfl

/-- The last entry is looked at before the others. -/
theorem ofEntries_concat_eq_ok_iff {entries : List Json} {last : Json} {report : Report} :
    ofEntries (entries ++ [last]) = .ok report ↔
      Histogram.ofJson last = .ok report.totals ∧ filesOf 0 entries = .ok report.files := by
  simp only [ofEntries, List.getLast?_concat, List.dropLast_concat]
  cases report with
  | mk files totals =>
      cases Histogram.ofJson last with
      | error reason => simp
      | ok found =>
          cases filesOf 0 entries with
          | error fault => simp
          | ok others => simp [and_comm]

/-- The documents that reports are read from. -/
theorem ofJson_eq_ok_iff {document : Json} {report : Report} :
    ofJson document = .ok report ↔
      ∃ entries last, document = .array (entries ++ [last]) ∧
        Histogram.ofJson last = .ok report.totals ∧ filesOf 0 entries = .ok report.files := by
  constructor
  · intro h
    cases document with
    | array items =>
        obtain rfl | ⟨entries, last, rfl⟩ := List.eq_nil_or_concat items
        · cases h
        · rw [List.concat_eq_append] at h
          exact ⟨entries, last, by rw [List.concat_eq_append], ofEntries_concat_eq_ok_iff.mp h⟩
    | null | bool _ | number _ | string _ | object _ => cases h
  · rintro ⟨entries, last, rfl, hread⟩
    exact ofEntries_concat_eq_ok_iff.mpr hread

/-- The items of an array that was read. -/
theorem stored_concat {entries : List Json} {last : Json}
    (h : (Json.array (entries ++ [last])).Stored) :
    (∀ entry ∈ entries, entry.Stored) ∧ last.Stored := by
  cases h with
  | array inner =>
      refine ⟨fun entry hentry => inner entry (List.mem_append_left _ hentry), ?_⟩
      exact inner last List.mem_concat_self

/-- A document holds a report with right totals exactly if it is an array whose
last item holds counts, whose other items hold counts or a failure, and whose
last counts are the sums of the others. -/
theorem exists_isConsistent_iff {document : Json} (hstored : document.Stored) :
    (∃ report, ofJson document = .ok report ∧ report.isConsistent = true) ↔
      ∃ entries last, document = .array (entries ++ [last]) ∧ last.IsStatistics ∧
        (∀ entry ∈ entries, entry.IsFailure ∨ entry.IsStatistics) ∧
        ∀ kind, last.countAt kind =
          ((entries.filter fun entry => ¬ entry.IsFailure).map (Json.countAt kind)).sum := by
  constructor
  · rintro ⟨report, hread, hconsistent⟩
    obtain ⟨entries, last, rfl, htotals, hfiles⟩ := ofJson_eq_ok_iff.mp hread
    obtain ⟨hentries, hlast⟩ := stored_concat hstored
    have htells := (Histogram.ofJson_eq_ok_iff_tells hlast).mp htotals
    refine ⟨entries, last, rfl, htells.1, (exists_filesOf_iff hentries).mp ⟨_, hfiles⟩, ?_⟩
    intro kind
    rw [← htells.2 kind, report.isConsistent_iff.mp hconsistent kind,
      map_get_of_filesOf hentries hfiles]
  · rintro ⟨entries, last, rfl, hstatistics, hforms, hsums⟩
    obtain ⟨hentries, hlast⟩ := stored_concat hstored
    obtain ⟨totals, htotals⟩ := (Histogram.exists_ofJson_iff hlast).mpr hstatistics
    obtain ⟨files, hfiles⟩ := (@exists_filesOf_iff 0 entries hentries).mpr hforms
    have htells := (Histogram.ofJson_eq_ok_iff_tells hlast).mp htotals
    refine ⟨⟨files, totals⟩, ofJson_eq_ok_iff.mpr ⟨entries, last, rfl, htotals, hfiles⟩, ?_⟩
    rw [isConsistent_iff]
    intro kind
    rw [htells.2 kind, hsums, map_get_of_filesOf hentries hfiles]

end Report
end SyntaxCensus
