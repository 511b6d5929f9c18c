import SyntaxCensus.Proofs.Report.Documents
import SyntaxCensus.Proofs.Report.RoundTrip

/-!
# Why a document is no report

A document that is no report is refused for one reason: the last item is looked
at before the others, and of these the first bad one is told.  Which reason it
is can be read off the form of the document, as can the report of a document
that is one.

Main definitions:

- `FirstFault`: the first item of a list that has a fault, and the fault.
- `Json.Unlike`: a value is no object of counts, and what is told of it.
- `Json.StandsFor`, `Json.Shows`: the outcome of an entry, the report of a
  document.
- `Report.Refused`: a document is no report, and what is told of it.

Main results:

- `Histogram.ofJson_eq_error_iff`: the values that are no histograms.
- `Report.filesOf_eq_error_iff`: the first bad entry is told.
- `Report.refused_iff`: the documents that are no reports.
- `Report.load_decides`: what loading a document gives.
-/

namespace SyntaxCensus

/-! ## First faults -/

section FirstFault

variable {α ρ : Type} {Good : α → Prop} {Bad : α → ρ → Prop}

/-- An item of a list is bad for a reason, and all items before it are good; with
the index of the item. -/
def FirstFault (Good : α → Prop) (Bad : α → ρ → Prop) (items : List α) (index : Nat)
    (reason : ρ) : Prop :=
  ∃ before item after, items = before ++ item :: after ∧ before.length = index ∧
    (∀ earlier ∈ before, Good earlier) ∧ Bad item reason

theorem not_firstFault_nil {index : Nat} {reason : ρ} :
    ¬ FirstFault Good Bad [] index reason := by
  rintro ⟨before, item, after, hsplit, _⟩
  simp at hsplit

/-- The first fault is in the first item, or that is good and it is a later
one. -/
theorem firstFault_cons_iff {item : α} {rest : List α} {index : Nat} {reason : ρ} :
    FirstFault Good Bad (item :: rest) index reason ↔
      (index = 0 ∧ Bad item reason) ∨
        ∃ later, index = later + 1 ∧ Good item ∧ FirstFault Good Bad rest later reason := by
  constructor
  · rintro ⟨before, bad, after, hsplit, rfl, hgood, hbad⟩
    cases before with
    | nil =>
        obtain ⟨rfl, rfl⟩ := List.cons.inj hsplit
        exact .inl ⟨rfl, hbad⟩
    | cons first more =>
        obtain ⟨rfl, rfl⟩ := List.cons.inj hsplit
        obtain ⟨hfirst, hmore⟩ := List.forall_mem_cons.mp hgood
        exact .inr ⟨more.length, rfl, hfirst, more, bad, after, rfl, rfl, hmore, hbad⟩
  · rintro (⟨rfl, hbad⟩ | ⟨_, rfl, hfirst, before, bad, after, rfl, rfl, hgood, hbad⟩)
    · exact ⟨[], item, rest, rfl, rfl, by simp, hbad⟩
    · exact ⟨item :: before, bad, after, rfl, rfl, List.forall_mem_cons.mpr ⟨hfirst, hgood⟩, hbad⟩

end FirstFault

/-! ## Values that are no histograms -/

namespace Json

/-- A whole number of 64 bits without a sign. -/
def IsCount (value : Json) : Prop :=
  ∃ count : Nat, count ≤ Number.maxWhole ∧ value = .number (.whole count)

/-- A value is no count, and what is told of it. -/
inductive UnlikeCount : Json → Mismatch → Prop
  | negative {value : Int} (below : value < 0) :
      UnlikeCount (.number (.whole value)) (.negativeCount value)
  | other {value : Json} (notWhole : ∀ number, value ≠ .number (.whole number)) :
      UnlikeCount value (.notCount (.ofJson value))

/-- A value is no object of counts, and what is told of it: that it is no object,
or what the first member is whose value is no count. -/
inductive Unlike : Json → Mismatch → Prop
  | notObject {value : Json} (other : ∀ members, value ≠ .object members) :
      Unlike value (.notMap (.ofJson value))
  | badMember {members : List (String × Json)} {index : Nat} {reason : Mismatch}
      (first : FirstFault (fun member => member.2.IsCount)
        (fun member => member.2.UnlikeCount) members index reason) :
      Unlike (.object members) reason

end Json

namespace Histogram

/-- A value that is no count is told about. -/
theorem countOf_eq_error_iff {value : Json} {reason : Mismatch} :
    countOf value = .error reason ↔ value.UnlikeCount reason := by
  constructor
  · intro h
    unfold countOf at h
    split at h
    · split at h
      · rename_i hbelow
        obtain rfl := Except.error.inj h
        exact .negative hbelow
      · cases h
    · rename_i hother
      obtain rfl := Except.error.inj h
      exact .other hother
  · rintro (hbelow | hother)
    · rw [countOf, if_pos hbelow]
    · unfold countOf
      split
      · exact absurd rfl (hother _)
      · rfl

/-- A count is read from a value exactly if it is a whole number of 64 bits. -/
theorem exists_countOf_iff {value : Json} (hstored : value.Stored) :
    (∃ count, countOf value = .ok count) ↔ value.IsCount := by
  constructor
  · rintro ⟨count, h⟩
    obtain rfl := countOf_eq_ok_iff.mp h
    cases hstored with
    | number fits => exact ⟨count, Int.ofNat_le.mp fits.2, rfl⟩
  · rintro ⟨count, _, rfl⟩
    exact ⟨count, countOf_countJson count⟩

/-- The members of an object are no counts if the first one is none, or if it is
one and the others are none. -/
theorem countsOf_cons_eq_error_iff {member : String × Json} {rest : List (String × Json)}
    {reason : Mismatch} :
    countsOf (member :: rest) = .error reason ↔
      countOf member.2 = .error reason ∨
        (∃ count, countOf member.2 = .ok count) ∧ countsOf rest = .error reason := by
  rw [countsOf]
  cases countOf member.2 with
  | error cause => simp
  | ok count => cases countsOf rest <;> simp

/-- The first member that is no count is told about. -/
theorem countsOf_eq_error_iff {members : List (String × Json)}
    (hstored : ∀ member ∈ members, member.2.Stored) {reason : Mismatch} :
    countsOf members = .error reason ↔
      ∃ index, FirstFault (fun member => member.2.IsCount)
        (fun member => member.2.UnlikeCount) members index reason := by
  induction members with
  | nil => simp [countsOf, not_firstFault_nil]
  | cons member rest ih =>
      obtain ⟨hmember, hrest⟩ := List.forall_mem_cons.mp hstored
      rw [countsOf_cons_eq_error_iff, countOf_eq_error_iff, exists_countOf_iff hmember, ih hrest]
      simp only [firstFault_cons_iff]
      constructor
      · rintro (hbad | ⟨hgood, index, hfirst⟩)
        · exact ⟨0, .inl ⟨rfl, hbad⟩⟩
        · exact ⟨index + 1, .inr ⟨index, rfl, hgood, hfirst⟩⟩
      · rintro ⟨_, ⟨_, hbad⟩ | ⟨index, _, hgood, hfirst⟩⟩
        · exact .inl hbad
        · exact .inr ⟨hgood, index, hfirst⟩

/-- A value that is no histogram is told about. -/
theorem ofJson_eq_error_iff {value : Json} (hstored : value.Stored) {reason : Mismatch} :
    ofJson value = .error reason ↔ value.Unlike reason := by
  cases hstored with
  | object sorted inner =>
      rename_i members
      have hmap : ofJson (.object members) = .error reason ↔ countsOf members = .error reason := by
        rw [ofJson]
        cases countsOf members <;> simp [Except.map]
      rw [hmap, countsOf_eq_error_iff inner]
      constructor
      · rintro ⟨index, hfirst⟩
        exact .badMember hfirst
      · rintro (hother | hfirst)
        · exact absurd rfl (hother members)
        · exact ⟨_, hfirst⟩
  | null | bool _ | number _ | string _ | array _ =>
      constructor
      · intro h
        obtain rfl := Except.error.inj h
        exact .notObject (by simp)
      · rintro ⟨⟩
        rfl

end Histogram

/-! ## Entries -/

namespace Json

/-- The form of an entry: a failure or an object of counts. -/
def IsEntry (value : Json) : Prop :=
  value.IsFailure ∨ value.IsStatistics

/-- The outcome that an entry stands for: a failure with the file and the reason
that it names, or a compiled file without a name and with the counts that it
tells. -/
inductive StandsFor : Json → FileResult → Prop
  | failure (file reason : String) :
      StandsFor (.object [(file, .string reason)]) (.failed file reason)
  | histogram {entry : Json} {h : Histogram} (tells : entry.Tells h) :
      StandsFor entry (.compiled "" h)

/-- A value is no entry, and what is told of it. -/
def UnlikeEntry (value : Json) (reason : Mismatch) : Prop :=
  ¬ value.IsFailure ∧ value.Unlike reason

end Json

namespace FileResult

/-- What is read from an entry is what it stands for. -/
theorem ofJson_eq_ok_iff_standsFor {entry : Json} (hstored : entry.Stored) {result : FileResult} :
    ofJson entry = .ok result ↔ entry.StandsFor result := by
  rw [ofJson_eq_ok_iff hstored]
  constructor
  · rintro (⟨file, reason, rfl, rfl⟩ | ⟨h, htells, rfl⟩)
    · exact .failure file reason
    · exact .histogram htells
  · rintro (⟨file, reason⟩ | htells)
    · exact .inl ⟨file, reason, rfl, rfl⟩
    · exact .inr ⟨_, htells, rfl⟩

/-- A value that is no entry is told about. -/
theorem ofJson_eq_error_iff {entry : Json} (hstored : entry.Stored) {reason : Mismatch} :
    ofJson entry = .error reason ↔ entry.UnlikeEntry reason := by
  rw [Json.UnlikeEntry, ← isSome_failure?_iff, ← Histogram.ofJson_eq_error_iff hstored, ofJson]
  cases failure? entry with
  | some failure => simp
  | none => cases Histogram.ofJson entry <;> simp [Except.map]

end FileResult

/-! ## Documents -/

namespace Json

/-- The report that a document shows: the last item of an array tells the totals,
and the other items stand for the files in their order. -/
inductive Shows : Json → Report → Prop
  | intro {entries : List Json} {last : Json} {report : Report}
      (files : List.Forall₂ StandsFor entries report.files) (totals : last.Tells report.totals) :
      Shows (.array (entries ++ [last])) report

end Json

namespace Report

/-- A document is no report, and what is told of it.  The last item is looked at
first, then the others in their order. -/
inductive Refused : Json → String → Prop
  | notArray {document : Json} (other : ∀ items, document ≠ .array items) :
      Refused document "Report must be a JSON array"
  | noTotals : Refused (.array []) "Report has no totals entry"
  | badTotals {entries : List Json} {last : Json} {reason : Mismatch}
      (bad : last.Unlike reason) :
      Refused (.array (entries ++ [last])) ("Last entry is not a totals map: " ++ reason.message)
  | badEntry {entries : List Json} {last : Json} {index : Nat} {reason : Mismatch}
      (totals : last.IsStatistics)
      (first : FirstFault Json.IsEntry Json.UnlikeEntry entries index reason) :
      Refused (.array (entries ++ [last]))
        ("Entry " ++ toString index ++ " is not a statistics map: " ++ reason.message)

/-- Entries are refused if the first one is bad, or if it is none and another one
is. -/
theorem filesOf_cons_eq_error_iff {index : Nat} {entry : Json} {rest : List Json}
    {fault : ReportFault} :
    filesOf index (entry :: rest) = .error fault ↔
      (∃ reason, FileResult.ofJson entry = .error reason ∧ fault = .badEntry index reason) ∨
        (∃ file, FileResult.ofJson entry = .ok file) ∧ filesOf (index + 1) rest = .error fault := by
  rw [filesOf]
  cases FileResult.ofJson entry with
  | error reason => simp [eq_comm]
  | ok file => cases filesOf (index + 1) rest <;> simp

/-- The first bad entry is told, with its index. -/
theorem filesOf_eq_error_iff {index : Nat} {entries : List Json}
    (hstored : ∀ entry ∈ entries, entry.Stored) {fault : ReportFault} :
    filesOf index entries = .error fault ↔
      ∃ later reason, FirstFault Json.IsEntry Json.UnlikeEntry entries later reason ∧
        fault = .badEntry (index + later) reason := by
  induction entries generalizing index with
  | nil => simp [filesOf, not_firstFault_nil]
  | cons entry rest ih =>
      obtain ⟨hentry, hrest⟩ := List.forall_mem_cons.mp hstored
      rw [filesOf_cons_eq_error_iff, FileResult.exists_ofJson_iff hentry, ih hrest]
      simp only [FileResult.ofJson_eq_error_iff hentry, firstFault_cons_iff]
      constructor
      · rintro (⟨reason, hbad, rfl⟩ | ⟨hgood, later, reason, hfirst, rfl⟩)
        · exact ⟨0, reason, .inl ⟨rfl, hbad⟩, rfl⟩
        · refine ⟨later + 1, reason, .inr ⟨later, rfl, hgood, hfirst⟩, ?_⟩
          rw [Nat.add_right_comm, Nat.add_assoc]
      · rintro ⟨_, reason, ⟨rfl, hbad⟩ | ⟨later, rfl, hgood, hfirst⟩, rfl⟩
        · exact .inl ⟨reason, hbad, rfl⟩
        · refine .inr ⟨hgood, later, reason, hfirst, ?_⟩
          rw [Nat.add_right_comm, Nat.add_assoc]

/-- Entries stand for the files that are read from them. -/
theorem filesOf_eq_ok_iff {index : Nat} {entries : List Json}
    (hstored : ∀ entry ∈ entries, entry.Stored) {files : List FileResult} :
    filesOf index entries = .ok files ↔ List.Forall₂ Json.StandsFor entries files := by
  induction entries generalizing index files with
  | nil => simp [filesOf, eq_comm]
  | cons entry rest ih =>
      obtain ⟨hentry, hrest⟩ := List.forall_mem_cons.mp hstored
      rw [filesOf_cons_eq_ok_iff, List.forall₂_cons_left_iff]
      simp only [FileResult.ofJson_eq_ok_iff_standsFor hentry, ih hrest, exists_and_left]

/-- A document is read as the report that it shows. -/
theorem ofJson_eq_ok_iff_shows {document : Json} (hstored : document.Stored) {report : Report} :
    ofJson document = .ok report ↔ document.Shows report := by
  rw [ofJson_eq_ok_iff]
  constructor
  · rintro ⟨entries, last, rfl, htotals, hfiles⟩
    obtain ⟨hentries, hlast⟩ := stored_concat hstored
    exact .intro ((filesOf_eq_ok_iff hentries).mp hfiles)
      ((Histogram.ofJson_eq_ok_iff_tells hlast).mp htotals)
  · rintro ⟨hfiles, htotals⟩
    obtain ⟨hentries, hlast⟩ := stored_concat hstored
    exact ⟨_, _, rfl, (Histogram.ofJson_eq_ok_iff_tells hlast).mpr htotals,
      (filesOf_eq_ok_iff hentries).mpr hfiles⟩

/-- The faults of an array that is not empty: of its last item, or of the first
bad one of the others. -/
theorem ofEntries_concat_eq_error_iff {entries : List Json} {last : Json} {fault : ReportFault} :
    ofEntries (entries ++ [last]) = .error fault ↔
      (∃ reason, Histogram.ofJson last = .error reason ∧ fault = .badTotals reason) ∨
        (∃ totals, Histogram.ofJson last = .ok totals) ∧ filesOf 0 entries = .error fault := by
  simp only [ofEntries, List.getLast?_concat, List.dropLast_concat]
  cases Histogram.ofJson last with
  | error reason => simp [eq_comm]
  | ok totals => cases filesOf 0 entries <;> simp

/-- A document that is no report is refused, with the words for its fault. -/
theorem refused_of_ofJson {document : Json} (hstored : document.Stored) {fault : ReportFault}
    (h : ofJson document = .error fault) : Refused document fault.message := by
  cases document with
  | array items =>
      obtain rfl | ⟨entries, last, rfl⟩ := List.eq_nil_or_concat items
      · obtain rfl := Except.error.inj h
        exact .noTotals
      · rw [List.concat_eq_append] at h hstored ⊢
        obtain ⟨hentries, hlast⟩ := stored_concat hstored
        obtain ⟨reason, hbad, rfl⟩ | ⟨hgood, hfiles⟩ := ofEntries_concat_eq_error_iff.mp h
        · exact .badTotals ((Histogram.ofJson_eq_error_iff hlast).mp hbad)
        · obtain ⟨index, reason, hfirst, rfl⟩ := (filesOf_eq_error_iff hentries).mp hfiles
          rw [Nat.zero_add]
          exact .badEntry ((Histogram.exists_ofJson_iff hlast).mp hgood) hfirst
  | null | bool _ | number _ | string _ | object _ =>
      obtain rfl := Except.error.inj h
      exact .notArray (by simp)

/-- The documents that are no reports, and what is told of them. -/
theorem refused_iff {document : Json} (hstored : document.Stored) {told : String} :
    Refused document told ↔
      ∃ fault, ofJson document = .error fault ∧ fault.message = told := by
  constructor
  · rintro (hother | _ | hbad | ⟨htotals, hfirst⟩)
    · refine ⟨.notArray, ?_, rfl⟩
      unfold ofJson
      split
      · exact absurd rfl (hother _)
      · rfl
    · exact ⟨.noTotals, rfl, rfl⟩
    · obtain ⟨_, hlast⟩ := stored_concat hstored
      have hread := (Histogram.ofJson_eq_error_iff hlast).mpr hbad
      exact ⟨_, ofEntries_concat_eq_error_iff.mpr (.inl ⟨_, hread, rfl⟩), rfl⟩
    · obtain ⟨hentries, hlast⟩ := stored_concat hstored
      have hfiles := (@filesOf_eq_error_iff 0 _ hentries _).mpr ⟨_, _, hfirst, rfl⟩
      rw [Nat.zero_add] at hfiles
      have hgood := (Histogram.exists_ofJson_iff hlast).mpr htotals
      exact ⟨_, ofEntries_concat_eq_error_iff.mpr (.inr ⟨hgood, hfiles⟩), rfl⟩
  · rintro ⟨fault, h, rfl⟩
    exact refused_of_ofJson hstored h

/-- A document is a report exactly if it is an array whose last item holds counts
and whose other items are entries. -/
theorem exists_ofJson_iff {document : Json} (hstored : document.Stored) :
    (∃ report, ofJson document = .ok report) ↔
      ∃ entries last, document = .array (entries ++ [last]) ∧ last.IsStatistics ∧
        ∀ entry ∈ entries, entry.IsFailure ∨ entry.IsStatistics := by
  constructor
  · rintro ⟨report, h⟩
    obtain ⟨entries, last, rfl, htotals, hfiles⟩ := ofJson_eq_ok_iff.mp h
    obtain ⟨hentries, hlast⟩ := stored_concat hstored
    exact ⟨entries, last, rfl, (Histogram.exists_ofJson_iff hlast).mp ⟨_, htotals⟩,
      (exists_filesOf_iff hentries).mp ⟨_, hfiles⟩⟩
  · rintro ⟨entries, last, rfl, hstatistics, hforms⟩
    obtain ⟨hentries, hlast⟩ := stored_concat hstored
    obtain ⟨totals, htotals⟩ := (Histogram.exists_ofJson_iff hlast).mpr hstatistics
    obtain ⟨files, hfiles⟩ := (@exists_filesOf_iff 0 entries hentries).mpr hforms
    exact ⟨⟨files, totals⟩, ofJson_eq_ok_iff.mpr ⟨entries, last, rfl, htotals, hfiles⟩⟩

/-- Loading succeeds exactly for the arrays whose last item holds counts and whose
other items are failures or hold counts, and gives the report that the document
shows.  Any other document is refused for one reason: that it is no array, that
it is empty, else what its last item is, else what the first bad one of its
other items is, with the index of that item. -/
theorem load_decides {σ : Type} (document : Json) (hstored : document.Stored)
    (session : Session σ) :
    ∃ outcome : Except ReportError Report,
      (load document).effect session = (outcome, session.state) ∧
        ((∃ report, outcome = .ok report) ↔
          ∃ entries last, document = .array (entries ++ [last]) ∧ last.IsStatistics ∧
            ∀ entry ∈ entries, entry.IsFailure ∨ entry.IsStatistics) ∧
        (∀ report, outcome = .ok report ↔ document.Shows report) ∧
        ∀ message, (∃ e, outcome = .error e ∧ e.message = message) ↔
          ∃ told, Refused document told ∧ message = "Invalid report: " ++ told := by
  refine ⟨_, hasEffect_load document session, ?accepts, ?shows, ?refuses⟩
  case accepts =>
    rw [← exists_ofJson_iff hstored]
    cases ofJson document <;> simp [Except.mapError]
  case shows =>
    intro report
    rw [← ofJson_eq_ok_iff_shows hstored]
    cases ofJson document <;> simp [Except.mapError]
  case refuses =>
    intro message
    simp only [refused_iff hstored]
    cases ofJson document with
    | error fault =>
        constructor
        · rintro ⟨e, heq, rfl⟩
          obtain rfl := Except.error.inj heq
          exact ⟨fault.message, ⟨fault, rfl, rfl⟩, rfl⟩
        · rintro ⟨_, ⟨_, heq, rfl⟩, rfl⟩
          obtain rfl := Except.error.inj heq
          exact ⟨.badReport fault, rfl, rfl⟩
    | ok report =>
        constructor
        · rintro ⟨_, heq, _⟩
          cases heq
        · rintro ⟨_, ⟨_, heq, _⟩, _⟩
          cases heq

/-- A failure, a number and a text before totals of nothing. -/
def manyFaults : Json :=
  .array ([.object [("a.sol", .string "not compiled")], .number (.whole 1), .string "b"] ++
    [.object []])

/-- Of several faults the first one is told, with the index of its entry. -/
theorem load_decides_manyFaults :
    manyFaults.Stored ∧
      ∃ e, ((load manyFaults : Action Unit ReportError Report).effect ⟨(), #[]⟩).1 = .error e ∧
        e.message = "Invalid report: Entry 1 is not a statistics map: " ++
          "invalid type: integer `1`, expected a map" := by
  have hparse : Json.parseFile (Utf8.encode manyFaults.compact) = .ok manyFaults := by
    decide +kernel
  have hstored := Json.stored_of_parseFile hparse
  have htotals : (Json.object []).IsStatistics := ⟨[], rfl, by simp⟩
  have hbad : (Json.number (.whole 1)).UnlikeEntry (.notMap (.number (.whole 1))) :=
    ⟨by rintro ⟨⟩, .notObject (by simp)⟩
  have hfirst : FirstFault Json.IsEntry Json.UnlikeEntry
      [.object [("a.sol", .string "not compiled")], .number (.whole 1), .string "b"] 1
      (.notMap (.number (.whole 1))) :=
    ⟨[_], _, [_], rfl, rfl, by simpa using .inl (.intro _ _), hbad⟩
  obtain ⟨outcome, heffect, _, _, hrefuses⟩ :=
    load_decides manyFaults hstored (⟨(), #[]⟩ : Session Unit)
  rw [heffect]
  exact ⟨hstored, (hrefuses _).mpr ⟨_, .badEntry htotals hfirst, by decide⟩⟩

end Report
end SyntaxCensus
