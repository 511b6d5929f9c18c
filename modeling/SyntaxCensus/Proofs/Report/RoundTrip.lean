import SyntaxCensus.Proofs.Histogram.Documents
import SyntaxCensus.Proofs.Json.ReadBack
import SyntaxCensus.Proofs.Json.Reading
import SyntaxCensus.Proofs.Report.Frame

/-!
# Reports read back

The document of a report does not name the compiled files.  Apart from these
names a report comes back from each of its forms: from the document, from
either printed text, and from the file that it was saved in.

Main definitions:

- `Report.CountsFit`: every count of a report is a whole number of a document.
- `Report.unnamed`: a report without the names of compiled files.

Main results:

- `Histogram.ofJson_toJson`, `Report.ofJson_toJson`: documents read back.
- `Report.wellFormed_toJson`: the document of a report can be printed and read.
- `Report.load_eq_ok_iff`, `Report.openFrom_eq_ok_iff`: which reports are loaded
  from documents and opened from files.
- `Report.reads_back`: a report reads back from each of its forms.
-/

namespace SyntaxCensus

/-! ## Histograms -/

namespace Histogram

/-- Every count is a whole number that a document can hold. -/
def CountsFit (h : Histogram) : Prop :=
  ∀ entry ∈ h.entries, entry.2 ≤ Number.maxWhole

instance (h : Histogram) : Decidable h.CountsFit :=
  inferInstanceAs (Decidable (∀ entry ∈ h.entries, entry.2 ≤ Number.maxWhole))

/-- A histogram comes back from its object of counts. -/
theorem ofJson_toJson (h : Histogram) : ofJson h.toJson = .ok h := by
  rw [toJson, ofJson, countsOf_countJson]
  exact congrArg Except.ok (ofPairs_entries h)

/-- The values of an object of counts can be printed and read. -/
theorem wellFormedMembers_countJson {entries : List (String × Nat)}
    (h : ∀ entry ∈ entries, entry.2 ≤ Number.maxWhole) :
    Json.WellFormedMembers (entries.map fun entry => (entry.1, countJson entry.2)) ∧
      Json.MembersHaveWholeNumbers (entries.map fun entry => (entry.1, countJson entry.2)) ∧
      Json.heightMembers (entries.map fun entry => (entry.1, countJson entry.2)) = 0 := by
  induction entries with
  | nil => exact ⟨trivial, trivial, rfl⟩
  | cons entry rest ih =>
      obtain ⟨hformed, hwhole, hheight⟩ := ih fun other hother =>
        h other (List.mem_cons_of_mem _ hother)
      have hrange : (countJson entry.2).WellFormed := by
        have hle := h entry List.mem_cons_self
        simp only [countJson, Json.WellFormed, Number.InRange]
        omega
      refine ⟨⟨hrange, hformed⟩, ⟨trivial, hwhole⟩, ?_⟩
      simp only [List.map_cons, Json.heightMembers, hheight]
      rfl

/-- The object of counts that fit can be printed and read. -/
theorem wellFormed_toJson {h : Histogram} (hfit : h.CountsFit) :
    h.toJson.WellFormed ∧ h.toJson.HasWholeNumbers ∧ h.toJson.height ≤ 1 := by
  obtain ⟨hformed, hwhole, hheight⟩ := wellFormedMembers_countJson hfit
  have hsorted : Keyed.Sorted (h.entries.map fun entry => (entry.1, countJson entry.2)) :=
    List.pairwise_map.mpr h.sorted
  refine ⟨⟨hsorted, hformed⟩, hwhole, ?_⟩
  simp only [toJson, Json.height, hheight]
  omega

end Histogram

/-! ## Entries -/

namespace FileResult

/-- The same outcome without the name of a compiled file. -/
def unnamed : FileResult → FileResult
  | .compiled _ histogram => .compiled "" histogram
  | .failed file reason => .failed file reason

/-- An object of counts does not stand for a failure. -/
theorem failure?_toJson (h : Histogram) : failure? h.toJson = none := by
  unfold Histogram.toJson
  match h.entries with
  | [] => rfl
  | [_] => rfl
  | _ :: _ :: _ => rfl

/-- The entry of a file stands for its outcome. -/
theorem ofJson_toJson (result : FileResult) : ofJson result.toJson = .ok result.unnamed := by
  cases result with
  | compiled file h =>
      rw [toJson, ofJson, failure?_toJson, Histogram.ofJson_toJson]
      rfl
  | failed file reason => rfl

/-- The entry of a file can be printed and read. -/
theorem wellFormed_toJson {result : FileResult}
    (hfit : ∀ h, result.histogram? = some h → h.CountsFit) :
    result.toJson.WellFormed ∧ result.toJson.HasWholeNumbers ∧ result.toJson.height ≤ 1 := by
  cases result with
  | compiled file h => exact Histogram.wellFormed_toJson (hfit h rfl)
  | failed file reason =>
      have hsorted : Keyed.Sorted [(file, Json.string reason)] :=
        Keyed.sorted_cons.mpr ⟨by simp, Keyed.sorted_nil⟩
      refine ⟨⟨hsorted, trivial, trivial⟩, ⟨trivial, trivial⟩, ?_⟩
      simp [toJson, Json.height, Json.heightMembers]

/-- Without the name of the file, the counts are the same. -/
theorem histogram?_unnamed (result : FileResult) :
    result.unnamed.histogram? = result.histogram? := by
  cases result <;> rfl

/-- Without the name of the file, a failure is still one. -/
theorem isFailed_unnamed (result : FileResult) : result.unnamed.isFailed = result.isFailed := by
  cases result <;> rfl

end FileResult

/-! ## Reports -/

namespace Report

/-- The totals of a report and the histograms of its compiled files. -/
def histograms (report : Report) : List Histogram :=
  report.totals :: report.files.filterMap FileResult.histogram?

/-- Every count of a report is a whole number that a document can hold. -/
def CountsFit (report : Report) : Prop :=
  ∀ h ∈ report.histograms, h.CountsFit

instance (report : Report) : Decidable report.CountsFit :=
  inferInstanceAs (Decidable (∀ h ∈ report.histograms, h.CountsFit))

/-- The same report without the names of compiled files. -/
def unnamed (report : Report) : Report where
  files := report.files.map FileResult.unnamed
  totals := report.totals

/-- The entries of files stand for their outcomes. -/
theorem filesOf_toJson (index : Nat) (results : List FileResult) :
    filesOf index (results.map FileResult.toJson) = .ok (results.map FileResult.unnamed) := by
  induction results generalizing index with
  | nil => rfl
  | cons result rest ih => simp [filesOf, FileResult.ofJson_toJson, ih]

/-- A report comes back from its document. -/
theorem ofJson_toJson (report : Report) : ofJson report.toJson = .ok report.unnamed := by
  rw [toJson, ofJson, ofEntries]
  simp [Histogram.ofJson_toJson, filesOf_toJson, unnamed]

/-- Items that can be printed and read, with another one after them. -/
theorem wellFormedItems_append {items : List Json} {last : Json} {bound : Nat}
    (hitems : ∀ item ∈ items, item.WellFormed ∧ item.HasWholeNumbers ∧ item.height ≤ bound)
    (hlast : last.WellFormed ∧ last.HasWholeNumbers ∧ last.height ≤ bound) :
    Json.WellFormedItems (items ++ [last]) ∧ Json.HaveWholeNumbers (items ++ [last]) ∧
      Json.heightItems (items ++ [last]) ≤ bound := by
  induction items with
  | nil =>
      refine ⟨⟨hlast.1, trivial⟩, ⟨hlast.2.1, trivial⟩, ?_⟩
      simpa [Json.heightItems] using hlast.2.2
  | cons item rest ih =>
      obtain ⟨hformed, hwhole, hheight⟩ := ih fun other hother =>
        hitems other (List.mem_cons_of_mem _ hother)
      obtain ⟨hformed', hwhole', hheight'⟩ := hitems item List.mem_cons_self
      exact ⟨⟨hformed', hformed⟩, ⟨hwhole', hwhole⟩, Nat.max_le.mpr ⟨hheight', hheight⟩⟩

/-- The document of a report can be printed and read. -/
theorem wellFormed_toJson {report : Report} (hfit : report.CountsFit) :
    report.toJson.WellFormed ∧ report.toJson.HasWholeNumbers ∧
      report.toJson.height ≤ Json.fileDepth := by
  have hitems : ∀ item ∈ report.files.map FileResult.toJson,
      item.WellFormed ∧ item.HasWholeNumbers ∧ item.height ≤ 1 := by
    intro item hitem
    obtain ⟨result, hresult, rfl⟩ := List.mem_map.mp hitem
    refine FileResult.wellFormed_toJson fun h hh => hfit h (List.mem_cons_of_mem _ ?_)
    exact List.mem_filterMap.mpr ⟨result, hresult, hh⟩
  have htotals := Histogram.wellFormed_toJson (hfit report.totals List.mem_cons_self)
  obtain ⟨hformed, hwhole, hheight⟩ := wellFormedItems_append hitems htotals
  refine ⟨hformed, hwhole, ?_⟩
  simp only [toJson, Json.height, Json.fileDepth]
  omega

/-- Without the names of compiled files, the totals are as right as before. -/
theorem isConsistent_unnamed (report : Report) :
    report.unnamed.isConsistent = report.isConsistent := by
  have hsame : (report.files.map FileResult.unnamed).filterMap FileResult.histogram? =
      report.files.filterMap FileResult.histogram? := by
    rw [List.filterMap_map]
    exact congrArg (List.filterMap · report.files) (funext FileResult.histogram?_unnamed)
  have htotal : totalOf report.unnamed.files = totalOf report.files :=
    congrArg Histogram.sum hsame
  rw [isConsistent, htotal]
  rfl

/-! ## Saved reports -/

/-- A report that was saved is in the file that the path leads to. -/
theorem openPath_of_save {report : Report} {path : String} {session saved : Session FileSystem}
    (h : report.save path session = .ok () saved) :
    saved.state.openPath path = .ok (.content report.octets) := by
  have heffect : (report.save path).effect session = (.ok (), saved.state) :=
    Action.effect_eq_ok_iff.mpr ⟨_, h⟩
  obtain ⟨place, executable, hfind, -⟩ := (saves_save heffect).exists_place
  simp only [FileSystem.openPath, hfind]

/-- Loading a document gives the report that it holds. -/
theorem hasEffect_load {σ : Type} (document : Json) :
    Action.HasEffect (load document : Action σ ReportError Report) fun state =>
      ((ofJson document).mapError .badReport, state) := by
  unfold load
  cases ofJson document with
  | error reason => exact Action.hasEffect_throw (ReportError.badReport reason)
  | ok report => exact .log_bind _ _ _ (Action.hasEffect_pure report)

/-- A report that is loaded is the one that is read from the document. -/
theorem load_eq_ok_iff {σ : Type} {document : Json} {report : Report} {session : Session σ}
    {after : σ} :
    (load document).effect session = (.ok report, after) ↔
      ofJson document = .ok report ∧ after = session.state := by
  rw [hasEffect_load document session, @eq_comm _ after]
  simp only [Prod.mk.injEq, Json.mapError_eq_ok_iff]

/-- Reading a file gives the report of the document in it, and changes no
file. -/
theorem hasEffect_openFrom (path : String) :
    Action.HasEffect (openFrom path) fun fs =>
      ((fetch fs path).bind fun document => (ofJson document).mapError .badReport, fs) := by
  refine .log_bind _ _ _ (.get_bind (g := fun seen fs =>
    ((fetch seen path).bind fun document => (ofJson document).mapError .badReport, fs)) ?_)
  intro session
  have hsteps := (Action.hasEffect_ofExcept (σ := FileSystem) (fetch session.state path)).bind
    (hasEffect_load (σ := FileSystem))
  intro session'
  rw [hsteps session']
  cases fetch session.state path <;> rfl

/-- A report that is opened is the one that is read from the document in the
file. -/
theorem openFrom_eq_ok_iff {path : String} {report : Report} {session : Session FileSystem}
    {after : FileSystem} :
    (openFrom path).effect session = (.ok report, after) ↔
      ∃ document, fetch session.state path = .ok document ∧
        (load document).effect session = (.ok report, after) := by
  rw [hasEffect_openFrom path session]
  dsimp only
  cases fetch session.state path with
  | error reason => simp [Except.bind]
  | ok document =>
      simp only [Except.ok.injEq, exists_eq_left']
      rw [hasEffect_load document session]
      rfl

/-- The octets of a saved report are read as its document. -/
theorem parseFile_octets {report : Report} (hfit : report.CountsFit) :
    Json.parseFile report.octets = .ok report.toJson := by
  obtain ⟨hformed, hwhole, hheight⟩ := wellFormed_toJson hfit
  have hblank : (Utf8.encode "\n").all Octet.isBlank = true := by decide
  rw [octets, Utf8.encode_append, text, Json.indented_eq]
  exact Json.parseFile_rendered .indented hformed hwhole hheight (List.all_eq_true.mp hblank)

/-- Without the names of compiled files, the same entries are failures. -/
theorem isFailed_unnamed (report : Report) :
    report.unnamed.files.map FileResult.isFailed = report.files.map FileResult.isFailed := by
  rw [unnamed, List.map_map]
  exact congrArg (List.map · report.files) (funext FileResult.isFailed_unnamed)

/-- A report comes back from its document, from both of its texts and from
every file that it was saved in, with its totals and with its entries in their
order, all but the names of compiled files.  The same entries are failures, and
the totals are as right as before. -/
theorem reads_back (report : Report) (hfit : report.CountsFit) :
    (∀ (σ : Type) (session : Session σ),
        (load report.toJson).effect session = (.ok report.unnamed, session.state)) ∧
      Json.parse report.text = .ok report.toJson ∧
      Json.parse report.toJson.compact = .ok report.toJson ∧
      (∀ (path : String) (session saved : Session FileSystem),
        report.save path session = .ok () saved →
          saved.state.openPath path = .ok (.content report.octets) ∧
            (openFrom path).effect saved = (.ok report.unnamed, saved.state)) ∧
      report.unnamed.totals = report.totals ∧
      report.unnamed.files.map FileResult.isFailed = report.files.map FileResult.isFailed ∧
      report.unnamed.isConsistent = report.isConsistent := by
  obtain ⟨hformed, hwhole, _⟩ := wellFormed_toJson hfit
  have hload : (ofJson report.toJson).mapError ReportError.badReport = .ok report.unnamed := by
    rw [ofJson_toJson]
    rfl
  refine ⟨?_, ?_, ?_, ?_, rfl, isFailed_unnamed report, isConsistent_unnamed report⟩
  · intro σ session
    rw [hasEffect_load report.toJson session, hload]
  · rw [text, Json.indented_eq]
    exact Json.parse_rendered .indented hformed hwhole
  · rw [Json.compact_eq]
    exact Json.parse_rendered .compact hformed hwhole
  · intro path session saved hsave
    have hopen := openPath_of_save hsave
    have hfetch : fetch saved.state path = .ok report.toJson := by
      simp only [fetch, hopen, parseFile_octets hfit]
      rfl
    refine ⟨hopen, ?_⟩
    have hread := hasEffect_openFrom path saved
    simp only [hfetch, Except.bind, hload] at hread
    exact hread

/-- A report with an empty name, a name of quotes, and the largest count. -/
def awkward : Report where
  files := [.failed "" "a\\b\x00", .compiled "A.sol" (.ofPairs [("\"\"", Number.maxWhole)])]
  totals := .ofPairs [("\"\"", 1)]

/-- Names with quotes and control characters are read back, and so are wrong totals. -/
theorem reads_back_awkward :
    awkward.CountsFit ∧ Json.parse awkward.text = .ok awkward.toJson ∧
      awkward.unnamed.isConsistent = false := by
  have hfit : awkward.CountsFit := by decide
  obtain ⟨_, htext, _, _, _, _, hconsistent⟩ := reads_back awkward hfit
  exact ⟨hfit, htext, hconsistent.trans (by decide)⟩

end Report
end SyntaxCensus
