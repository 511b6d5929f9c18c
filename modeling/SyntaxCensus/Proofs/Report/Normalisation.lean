import SyntaxCensus.Proofs.Report.Refusals

/-!
# Reports written again

A document may count a kind as zero.  Reading drops such members, so a report
that is read and written again is the document without them, and in all else the
same: entry by entry, failures with their words.

Main definitions:

- `Json.withoutZeros`, `Json.normalised`: an entry and a document without the
  members that are zero.

Main results:

- `Histogram.entries_ofPairs`: the entries of sorted counts.
- `Histogram.toJson_of_ofJson`, `FileResult.toJson_of_ofJson`: a histogram and an
  entry written again.
- `Report.load_normalises`: a document written again.
-/

namespace SyntaxCensus

/-! ## Without zeros -/

namespace Json

/-- An object without the members that are zero. -/
def withoutZeros : Json → Json
  | .object members =>
      .object (members.filter fun member => decide (member.2 ≠ .number (.whole 0)))
  | value => value

/-- A document each item of which is without the members that are zero. -/
def normalised : Json → Json
  | .array items => .array (items.map withoutZeros)
  | value => value

/-- An object without members that are zero is left as it is. -/
theorem withoutZeros_of_forall {value : Json}
    (h : ∀ members, value = .object members → ∀ member ∈ members, member.2 ≠ .number (.whole 0)) :
    value.withoutZeros = value := by
  cases value with
  | object members =>
      rw [withoutZeros, List.filter_eq_self.mpr fun member hmember =>
        decide_eq_true (h members rfl member hmember)]
  | null | bool _ | number _ | string _ | array _ => rfl

/-- A failure is left as it is. -/
theorem IsFailure.withoutZeros_eq {entry : Json} (h : entry.IsFailure) :
    entry.withoutZeros = entry := by
  obtain ⟨file, reason⟩ := h
  refine withoutZeros_of_forall fun members hmembers member hmember => ?_
  obtain rfl := Json.object.inj hmembers
  rw [List.mem_singleton.mp hmember]
  simp

/-- Once the members that are zero are dropped there are none. -/
theorem withoutZeros_withoutZeros (value : Json) :
    value.withoutZeros.withoutZeros = value.withoutZeros := by
  refine withoutZeros_of_forall fun members hmembers member hmember => ?_
  cases value with
  | object members' =>
      obtain rfl := Json.object.inj hmembers
      exact of_decide_eq_true (List.mem_filter.mp hmember).2
  | null | bool _ | number _ | string _ | array _ => cases hmembers

/-- What is normalised stays as it is. -/
theorem normalised_normalised (document : Json) :
    document.normalised.normalised = document.normalised := by
  cases document with
  | array items =>
      rw [normalised, normalised, List.map_map]
      exact congrArg Json.array (List.map_congr_left fun item _ => item.withoutZeros_withoutZeros)
  | null | bool _ | number _ | string _ | object _ => rfl

/-- A document without members that are zero is left as it is. -/
theorem normalised_of_forall {items : List Json}
    (h : ∀ members, Json.object members ∈ items →
      ∀ member ∈ members, member.2 ≠ .number (.whole 0)) :
    (Json.array items).normalised = .array items := by
  have hitem : ∀ item ∈ items, item.withoutZeros = item := by
    intro item hitem
    refine withoutZeros_of_forall fun members hmembers => ?_
    exact h members (hmembers ▸ hitem)
  rw [normalised, List.map_congr_left hitem, List.map_id']

end Json

/-! ## Histograms -/

namespace Histogram

/-- Pairs with a count of zero add nothing. -/
theorem added_filter (kind : String) (pairs : List (String × Nat)) :
    added kind (pairs.filter fun pair => decide (pair.2 ≠ 0)) = added kind pairs := by
  induction pairs with
  | nil => rfl
  | cons pair rest ih =>
      have hstep : added kind (pair :: rest) =
          (if pair.1 = kind then pair.2 else 0) + added kind rest := rfl
      rw [hstep, ← ih]
      by_cases hzero : pair.2 = 0
      · rw [List.filter_cons_of_neg (by simp [hzero])]
        simp [hzero]
      · rw [List.filter_cons_of_pos (by simp [hzero])]
        rfl

/-- The entries of sorted counts are those that are not zero. -/
theorem entries_ofPairs {counts : List (String × Nat)} (h : Keyed.Sorted counts) :
    (ofPairs counts).entries = counts.filter fun entry => decide (entry.2 ≠ 0) := by
  let kept : Histogram :=
    { entries := counts.filter fun entry => decide (entry.2 ≠ 0)
      sorted := h.filter _
      positive := fun entry hentry =>
        Nat.pos_of_ne_zero (by simpa using (List.mem_filter.mp hentry).2) }
  have hkept : ofPairs counts = kept := by
    refine ext_get fun kind => ?_
    rw [ofPairs, get_addAll, get_empty, Nat.zero_add, ← added_entries kept, added_filter]
  rw [hkept]

/-- A histogram is written as the object that it was read from, without zeros. -/
theorem toJson_of_ofJson {value : Json} (hstored : value.Stored) {h : Histogram}
    (hread : ofJson value = .ok h) : h.toJson = value.withoutZeros := by
  obtain ⟨counts, rfl, rfl⟩ := ofJson_eq_ok_iff.mp hread
  cases hstored with
  | object sorted _ =>
      have hzero : ∀ entry : String × Nat,
          decide (countJson entry.2 ≠ .number (.whole 0)) = decide (entry.2 ≠ 0) := by
        intro entry
        simp [countJson]
      rw [toJson, entries_ofPairs ((sorted_map_countJson counts).mp sorted), Json.withoutZeros,
        List.filter_map]
      simp only [Function.comp_def, hzero]

end Histogram

/-! ## Entries -/

namespace FileResult

/-- An entry is written as it was read, without zeros. -/
theorem toJson_of_ofJson {entry : Json} (hstored : entry.Stored) {result : FileResult}
    (hread : ofJson entry = .ok result) : result.toJson = entry.withoutZeros := by
  cases (ofJson_eq_ok_iff_standsFor hstored).mp hread with
  | failure file reason => exact (Json.IsFailure.intro file reason).withoutZeros_eq.symm
  | histogram tells =>
      exact Histogram.toJson_of_ofJson hstored
        ((Histogram.ofJson_eq_ok_iff_tells hstored).mpr tells)

/-- The outcome of an entry has no name that writing would lose. -/
theorem unnamed_of_standsFor {entry : Json} {result : FileResult} (h : entry.StandsFor result) :
    result.unnamed = result := by
  cases h <;> rfl

/-- Nor have the outcomes of entries. -/
theorem map_unnamed_of_standsFor {entries : List Json} {files : List FileResult}
    (h : List.Forall₂ Json.StandsFor entries files) : files.map unnamed = files := by
  induction h with
  | nil => rfl
  | cons hstands _ ih => rw [List.map_cons, unnamed_of_standsFor hstands, ih]

end FileResult

/-! ## Documents -/

namespace Report

/-- Entries are written as they were read, without zeros. -/
theorem map_toJson_of_filesOf {index : Nat} {entries : List Json} {files : List FileResult}
    (hstored : ∀ entry ∈ entries, entry.Stored) (h : filesOf index entries = .ok files) :
    files.map FileResult.toJson = entries.map Json.withoutZeros := by
  induction entries generalizing index files with
  | nil =>
      obtain rfl := Except.ok.inj h
      rfl
  | cons entry rest ih =>
      obtain ⟨hentry, hrest⟩ := List.forall_mem_cons.mp hstored
      obtain ⟨file, others, hfile, hothers, rfl⟩ := filesOf_cons_eq_ok_iff.mp h
      rw [List.map_cons, List.map_cons, FileResult.toJson_of_ofJson hentry hfile, ih hrest hothers]

/-- A report is written as the document that it was read from, without zeros. -/
theorem toJson_of_ofJson {document : Json} (hstored : document.Stored) {report : Report}
    (hread : ofJson document = .ok report) : report.toJson = document.normalised := by
  obtain ⟨entries, last, rfl, htotals, hfiles⟩ := ofJson_eq_ok_iff.mp hread
  obtain ⟨hentries, hlast⟩ := stored_concat hstored
  rw [toJson, map_toJson_of_filesOf hentries hfiles, Histogram.toJson_of_ofJson hlast htotals,
    Json.normalised, List.map_append]
  rfl

/-- A report that was read has no names that writing would lose. -/
theorem unnamed_of_ofJson {document : Json} (hstored : document.Stored) {report : Report}
    (hread : ofJson document = .ok report) : report.unnamed = report := by
  obtain ⟨hfiles, _⟩ := (ofJson_eq_ok_iff_shows hstored).mp hread
  rw [unnamed, FileResult.map_unnamed_of_standsFor hfiles]

/-- A document without zeros is read as the same report. -/
theorem ofJson_normalised {document : Json} (hstored : document.Stored) {report : Report}
    (hread : ofJson document = .ok report) : ofJson document.normalised = .ok report := by
  rw [← toJson_of_ofJson hstored hread, ofJson_toJson, unnamed_of_ofJson hstored hread]

/-- A report that was loaded is read from the document. -/
theorem ofJson_of_load {σ : Type} {document : Json} {session : Session σ} {report : Report}
    {after : σ} (h : (load document).effect session = (.ok report, after)) :
    ofJson document = .ok report :=
  (load_eq_ok_iff.mp h).1

/-- A report that was loaded is written as its document without the members that
are zero, and as the document itself if there are none.  That document is loaded
as the same report, so reading and writing it once more changes nothing, and its
totals are as right as before. -/
theorem load_normalises {σ τ : Type} {document : Json} (hstored : document.Stored)
    {session : Session σ} {report : Report} {after : σ}
    (hload : (load document).effect session = (.ok report, after)) :
    report.toJson = document.normalised ∧
      (∀ later : Session τ, (load document.normalised).effect later = (.ok report, later.state)) ∧
      document.normalised.normalised = document.normalised ∧
      ((∀ items members, document = .array items → Json.object members ∈ items →
          ∀ member ∈ members, member.2 ≠ .number (.whole 0)) → report.toJson = document) ∧
      ∀ again, ofJson document.normalised = .ok again →
        again.toJson = report.toJson ∧ again.isConsistent = report.isConsistent := by
  have hread := ofJson_of_load hload
  have hwritten := toJson_of_ofJson hstored hread
  have hagain := ofJson_normalised hstored hread
  refine ⟨hwritten, ?loaded, ?twice, ?free, ?verdict⟩
  case loaded =>
    intro later
    rw [hasEffect_load document.normalised later, hagain]
    rfl
  case twice => exact document.normalised_normalised
  case free =>
    intro hfree
    rw [hwritten]
    obtain ⟨entries, last, rfl, _⟩ := ofJson_eq_ok_iff.mp hread
    exact Json.normalised_of_forall fun members hmember => hfree _ members rfl hmember
  case verdict =>
    intro again h
    obtain rfl := Except.ok.inj (hagain.symm.trans h)
    exact ⟨rfl, rfl⟩

/-- A histogram with a zero, a failure, and totals with another zero. -/
def withZeros : Json :=
  .array ([.object [("A", .number (.whole 0)), ("B", .number (.whole 2))],
      .object [("a.sol", .string "not compiled")]] ++
    [.object [("B", .number (.whole 2)), ("C", .number (.whole 0))]])

/-- The report that it is read as. -/
def withoutNames : Report where
  files := [.compiled "" (.ofPairs [("B", 2)]), .failed "a.sol" "not compiled"]
  totals := .ofPairs [("B", 2)]

/-- Zeros and the name of a compiled file are gone after loading. -/
theorem load_normalises_withZeros :
    (load withZeros).effect (⟨(), #[]⟩ : Session Unit) = (.ok withoutNames, ()) ∧
      withoutNames.toJson =
        .array [.object [("B", .number (.whole 2))], .object [("a.sol", .string "not compiled")],
          .object [("B", .number (.whole 2))]] := by
  have hread : ofJson withZeros = .ok withoutNames := by decide
  have hload : (load withZeros).effect (⟨(), #[]⟩ : Session Unit) = (.ok withoutNames, ()) := by
    rw [hasEffect_load, hread]
    rfl
  have hparse : Json.parseFile (Utf8.encode withZeros.compact) = .ok withZeros := by decide +kernel
  have hstored := Json.stored_of_parseFile hparse
  refine ⟨hload, ?_⟩
  rw [(load_normalises (τ := Unit) hstored hload).1]
  decide

end Report
end SyntaxCensus
