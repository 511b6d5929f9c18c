import SyntaxCensus.Proofs.Json.Drafts
import SyntaxCensus.Proofs.Report.Depth
import SyntaxCensus.Proofs.Report.Refusals

/-!
# Reports from files and from texts

A report is loaded from a document, and the document may come from a file or from
a text.  The reader of files has a bound on nesting, which the reader of texts
has not.  Reports are flat, so the bound is of no consequence for them, unless a
document gives a key several values and one that does not count is deep.

Main results:

- `Report.height_le_of_ofJson`: how deep the documents of reports are nested.
- `Report.fetch_eq_ok_iff`: the documents that are fetched from files.
- `Report.openFrom_agrees_load`: the two ways to a report.
-/

namespace SyntaxCensus

/-! ## Documents of reports are flat -/

namespace Json

variable {value : Json}

/-- Statistics are an object of numbers. -/
theorem IsStatistics.height_le (h : value.IsStatistics) : value.height ≤ 1 := by
  obtain ⟨members, rfl, hcounts⟩ := h
  have hmembers : heightMembers members ≤ 0 := by
    refine heightMembers_le_iff.mpr fun member hmember => ?_
    obtain ⟨count, -, hcount⟩ := hcounts member hmember
    rw [hcount, height]
  exact Nat.succ_le_succ hmembers

theorem IsFailure.height_le (h : value.IsFailure) : value.height ≤ 1 := by
  obtain ⟨file, reason⟩ := h
  exact Nat.le_refl _

end Json

namespace Report

/-- A report is an array of objects of scalars. -/
theorem height_le_of_ofJson {document : Json} (hstored : document.Stored) {report : Report}
    (h : ofJson document = .ok report) : document.height ≤ 2 := by
  obtain ⟨entries, last, rfl, hlast, hentries⟩ := (exists_ofJson_iff hstored).mp ⟨report, h⟩
  have hitems : Json.heightItems (entries ++ [last]) ≤ 1 := by
    refine Json.heightItems_le_iff.mpr fun item hitem => ?_
    rcases List.mem_append.mp hitem with hentry | hitem
    · exact (hentries item hentry).elim Json.IsFailure.height_le Json.IsStatistics.height_le
    · rw [List.mem_singleton.mp hitem]
      exact hlast.height_le
  exact Nat.succ_le_succ hitems

/-! ## Documents in files -/

/-- The document in a file is that of its text, if it nests fewer than 128
containers. -/
theorem fetch_eq_ok_iff {fs : FileSystem} {path text : String} {document : Json}
    (hopen : fs.openPath path = .ok (.content (Utf8.encode text))) :
    fetch fs path = .ok document ↔
      Json.parse text = .ok document ∧ Json.nesting (Utf8.encode text) < 128 := by
  constructor
  · intro h
    simp only [fetch, hopen] at h
    have hfile := Json.mapError_eq_ok_iff.mp h
    have hread := Json.read_of_bounded (Json.parseFile_eq_ok_iff.mp hfile)
    exact ⟨Json.parse_eq_ok_iff.mpr hread, Nat.lt_succ_of_le (Json.nesting_le_of_parseFile hfile)⟩
  · rintro ⟨hparse, hlt⟩
    rcases fetch_of_read hopen (Json.parse_eq_ok_iff.mp hparse) with ⟨-, hfetch⟩ | ⟨hdeep, -⟩
    · exact hfetch
    · exact absurd hdeep (Nat.not_lt.mpr (Nat.le_of_lt_succ hlt))

/-! ## Values that do not count -/

/-- The text of a report that nests 128 containers or more replaces a value that
nests most of them. -/
theorem exists_replaces_of_load {text : String} {document : Json} {report : Report}
    (hparse : Json.parse text = .ok document) (h : ofJson document = .ok report)
    (hdeep : 128 ≤ Json.nesting (Utf8.encode text)) :
    ∃ draft hidden, Json.DraftedAs text draft ∧ draft.Replaces hidden ∧ 126 ≤ hidden.height := by
  obtain ⟨draft, hdraft, rfl⟩ := Json.parse_eq_ok_iff_draftedAs.mp hparse
  have hflat := height_le_of_ofJson (Json.stored_of_read (Json.parse_eq_ok_iff.mp hparse)) h
  obtain ⟨hidden, hreplaced, hheight⟩ := @Json.DraftedAs.exists_replaces _ _ hdraft 125 (by omega)
  exact ⟨draft, hidden, hdraft, hreplaced, hheight⟩

/-- A file that holds a text is opened as a report only if the text is a document
that is loaded as this report.  If it is, and nests fewer than 128 containers, the
file is opened as the same report.  If it nests 128 or more, the file is turned
down as nested too deep; but then some object gives a key a deep value and, after
it, another one.  So for texts that repeat no key the two ways to a report agree. -/
theorem openFrom_agrees_load (path : String) (session : Session FileSystem) (text : String)
    (hopen : session.state.openPath path = .ok (.content (Utf8.encode text))) :
    (∀ report after, (openFrom path).effect session = (.ok report, after) →
        ∃ document, Json.parse text = .ok document ∧
          (load document).effect session = (.ok report, after)) ∧
      (∀ document report after, Json.parse text = .ok document →
        (load document).effect session = (.ok report, after) →
          (Json.nesting (Utf8.encode text) < 128 →
              (openFrom path).effect session = (.ok report, after)) ∧
            (128 ≤ Json.nesting (Utf8.encode text) →
              (∃ reason, reason.fault = .nestedTooDeep ∧
                (openFrom path).effect session = (.error (.undecoded reason), session.state)) ∧
                ∃ draft hidden, Json.DraftedAs text draft ∧ draft.Replaces hidden ∧
                  126 ≤ hidden.height)) ∧
      (¬ Json.RepeatsKey text → ∀ report after,
        (openFrom path).effect session = (.ok report, after) ↔
          ∃ document, Json.parse text = .ok document ∧
            (load document).effect session = (.ok report, after)) := by
  have hopened : ∀ report after, (openFrom path).effect session = (.ok report, after) ↔
      ∃ document, (Json.parse text = .ok document ∧ Json.nesting (Utf8.encode text) < 128) ∧
        (load document).effect session = (.ok report, after) := by
    intro report after
    simp only [openFrom_eq_ok_iff, fetch_eq_ok_iff hopen]
  refine ⟨?sound, ?complete, ?agree⟩
  case sound =>
    intro report after h
    obtain ⟨document, ⟨hparse, -⟩, hload⟩ := (hopened report after).mp h
    exact ⟨document, hparse, hload⟩
  case complete =>
    intro document report after hparse hload
    refine ⟨fun hlt => (hopened report after).mpr ⟨document, ⟨hparse, hlt⟩, hload⟩,
      fun hdeep => ⟨?_, exists_replaces_of_load hparse (load_eq_ok_iff.mp hload).1 hdeep⟩⟩
    rcases fetch_of_read hopen (Json.parse_eq_ok_iff.mp hparse) with
      ⟨hle, -⟩ | ⟨-, reason, hfetch, hfault⟩
    · exact absurd (Nat.le_trans hdeep hle) (by decide)
    · refine ⟨reason, hfault, ?_⟩
      rw [hasEffect_openFrom path session]
      simp only [hfetch]
      rfl
  case agree =>
    intro hkeys report after
    rw [hopened]
    refine exists_congr fun document => and_congr_left fun hload => and_iff_left_of_imp ?_
    intro hparse
    refine Nat.lt_of_not_le fun hdeep => hkeys ?_
    obtain ⟨draft, hidden, hdraft, hreplaced, -⟩ :=
      exists_replaces_of_load hparse (load_eq_ok_iff.mp hload).1 hdeep
    exact ⟨draft, hidden, hdraft, hreplaced⟩

/-! ### A report with a deep value that does not count -/

/-- An object gives a key 126 arrays in one another, and then a count. -/
def hidingText : String :=
  "[\x7b\"a\":" ++ String.ofList (List.replicate 126 '[' ++ List.replicate 126 ']') ++
    ",\"a\":1\x7d,\x7b\"a\":1\x7d]"

/-- The value of that text. -/
def hidingDocument : Json :=
  .array [.object [("a", .number (.whole 1))], .object [("a", .number (.whole 1))]]

/-- A file with that text. -/
def hidingFiles : FileSystem :=
  ⟨.directory [("deep.json", .file (Utf8.encode hidingText) false)], []⟩

/-- A value is overwritten that is nested too deep for a file: loading takes what opening does not.
-/
theorem openFrom_agrees_load_hiding :
    hidingFiles.openPath "deep.json" = .ok (.content (Utf8.encode hidingText)) ∧
      Json.parse hidingText = .ok hidingDocument ∧
      (∃ report, (load hidingDocument).effect (⟨hidingFiles, #[]⟩ : Session FileSystem) =
        (.ok report, hidingFiles)) ∧
      (∃ reason, reason.fault = .nestedTooDeep ∧
        (openFrom "deep.json").effect ⟨hidingFiles, #[]⟩ =
          (.error (.undecoded reason), hidingFiles)) ∧
      Json.RepeatsKey hidingText := by
  have hopen : hidingFiles.openPath "deep.json" = .ok (.content (Utf8.encode hidingText)) :=
    openPath_of_one_file _
  have hparse : Json.parse hidingText = .ok hidingDocument := by decide +kernel
  have hdeep : 128 ≤ Json.nesting (Utf8.encode hidingText) := by decide +kernel
  have hload : (load hidingDocument).effect (⟨hidingFiles, #[]⟩ : Session FileSystem) =
      (.ok ⟨[.compiled "" (.ofPairs [("a", 1)])], .ofPairs [("a", 1)]⟩, hidingFiles) :=
    load_eq_ok_iff.mpr ⟨rfl, rfl⟩
  obtain ⟨-, hcomplete, -⟩ := openFrom_agrees_load "deep.json" ⟨hidingFiles, #[]⟩ _ hopen
  obtain ⟨-, hstops⟩ := hcomplete _ _ _ hparse hload
  obtain ⟨hstopped, draft, hidden, hdraft, hreplaced, -⟩ := hstops hdeep
  exact ⟨hopen, hparse, ⟨_, hload⟩, hstopped, draft, hidden, hdraft, hreplaced⟩

end Report
end SyntaxCensus
