import Mathlib.Data.List.Basic
import SyntaxCensus.Proofs.Histogram.Counts
import SyntaxCensus.Proofs.Histogram.Occurrences
import SyntaxCensus.Proofs.Json.Unbounded
import SyntaxCensus.Proofs.Json.Wrapping
import SyntaxCensus.Proofs.Report.RoundTrip

/-!
# Trees of any depth, reports of some depth

A syntax tree is read and counted however deep its containers are nested: put into
more of them it is read as before, and only the containers that name a kind are
counted in addition.  The reader of saved reports, which are never that deep, has
a bound, and turns down every document beyond it.

Main results:

- `Wrapper.ofTree_valueIn`: the histogram of a tree in containers.
- `Report.fetch_of_read`: the documents that are fetched from files.
- `parse_any_depth_openFrom_bounded`: the two readers side by side.
-/

namespace SyntaxCensus

/-! ## Counting trees in containers -/

namespace Wrapper

variable {marker body : String} (hne : body ≠ marker)
include hne

/-- The members of an object around a value, in one of two orders. -/
theorem children_perm (kind : String) (inner : Json) :
    (Json.ofBindings [(marker, .string kind), (body, inner)]).children.Perm
      [.string kind, inner] := by
  by_cases hlt : marker < body
  · simp [Json.ofBindings, Keyed.ofBindings, Keyed.insertNew, Keyed.insertWith, Json.children, hlt]
  · simpa [Json.ofBindings, Keyed.ofBindings, Keyed.insertNew, Keyed.insertWith, Json.children,
      hlt, Ne.symm hne] using List.Perm.swap _ _ _

/-- A container around a value counts the kind that it names, if it names one. -/
theorem occurrences_value (wrapper : Wrapper) (inner : Json) (kind : String) :
    (wrapper.value marker body inner).occurrences marker kind =
      inner.occurrences marker kind + if wrapper.kind? = some kind then 1 else 0 := by
  cases wrapper with
  | array before after =>
      simp [value, kind?, Json.occurrences, Json.occurrencesItems]
  | node named markerFirst forMarker forBody =>
      have hmember : (Json.ofBindings [(marker, .string named), (body, inner)]).member? marker =
          some (.string named) := by
        rw [Json.ofBindings, Json.member?, Keyed.lookup_ofBindings_pair, if_neg hne, if_pos rfl]
      have hkind : (Json.ofBindings [(marker, .string named), (body, inner)]).kind? marker =
          (node named markerFirst forMarker forBody).kind? := by
        rw [Json.kind?, hmember]
        rfl
      rw [value, Json.occurrences_eq, hkind,
        Json.occurrencesItems_perm marker kind (children_perm hne named inner)]
      simp only [Json.occurrencesItems, Json.occurrences]
      omega

/-- Containers around a value count the kinds that they name. -/
theorem occurrences_valueIn (wrappers : List Wrapper) (inner : Json) (kind : String) :
    (valueIn marker body wrappers inner).occurrences marker kind =
      inner.occurrences marker kind + (wrappers.filterMap kind?).count kind := by
  induction wrappers with
  | nil => rfl
  | cons wrapper rest ih =>
      have hstep : valueIn marker body (wrapper :: rest) inner =
          wrapper.value marker body (valueIn marker body rest inner) := rfl
      rw [hstep, occurrences_value hne, ih]
      cases hkind : wrapper.kind? with
      | none => simp [hkind]
      | some named => simp [hkind, List.count_cons, Nat.add_assoc]

end Wrapper

namespace Histogram

/-- Recording kinds adds how often each of them is recorded. -/
theorem get_foldl_record (kinds : List String) (h : Histogram) (kind : String) :
    (kinds.foldl record h).get kind = h.get kind + kinds.count kind := by
  induction kinds generalizing h with
  | nil => rfl
  | cons named rest ih =>
      rw [List.foldl_cons, ih, record_eq_add, get_add, List.count_cons]
      simp only [beq_iff_eq]
      omega

end Histogram

namespace Wrapper

/-- A tree in containers has the histogram of the tree, with one node recorded for
every container that names a kind. -/
theorem ofTree_valueIn {marker body : String} (hne : body ≠ marker) (wrappers : List Wrapper)
    (tree : Json) :
    Histogram.ofTree marker (valueIn marker body wrappers tree) =
      (wrappers.filterMap kind?).foldl Histogram.record (Histogram.ofTree marker tree) := by
  refine Histogram.ext_get fun kind => ?_
  rw [Histogram.get_foldl_record, Histogram.get_ofTree, Histogram.get_ofTree,
    occurrences_valueIn hne]

end Wrapper

/-! ## Fetching reports -/

namespace Report

/-- A document in a file is fetched if it nests no more containers than there is
room for, and else it is nested too deep. -/
theorem fetch_of_read {fs : FileSystem} {path : String} {octets : List UInt8} {document : Json}
    (hopen : fs.openPath path = .ok (.content octets))
    (hread : Json.read none octets = .ok document) :
    Json.nesting octets ≤ Json.fileDepth ∧ fetch fs path = .ok document ∨
      Json.fileDepth < Json.nesting octets ∧
        ∃ reason, fetch fs path = .error (.undecoded reason) ∧ reason.fault = .nestedTooDeep := by
  simp only [fetch, hopen]
  rcases Json.parseFile_of_read hread with ⟨hle, hparse⟩ | ⟨hlt, reason, hparse, hfault⟩
  · exact .inl ⟨hle, by rw [hparse]; rfl⟩
  · exact .inr ⟨hlt, reason, by rw [hparse]; rfl, hfault⟩

end Report

/-! ## Both readers -/

/-- No text is turned down as a tree for its depth.  A text that is a tree, put into
any containers, is the tree in these containers, and their kinds are counted in
addition to those of the tree.  But a file with a document of 128 containers nested
in one another, or more, is not opened as a report. -/
theorem parse_any_depth_openFrom_bounded :
    (∀ text reason, Json.parse text = .error reason → reason.fault ≠ .nestedTooDeep) ∧
      (∀ (marker body : String) (wrappers : List Wrapper) (text : String) (tree : Json),
        body ≠ marker → Json.parse text = .ok tree →
          Json.parse (Wrapper.textIn marker body wrappers text) =
              .ok (Wrapper.valueIn marker body wrappers tree) ∧
            Histogram.ofTree marker (Wrapper.valueIn marker body wrappers tree) =
              (wrappers.filterMap Wrapper.kind?).foldl Histogram.record
                (Histogram.ofTree marker tree)) ∧
      ∀ (path : String) (session : Session FileSystem) (octets : List UInt8) (document : Json),
        session.state.openPath path = .ok (.content octets) →
          Json.read none octets = .ok document → 128 ≤ Json.nesting octets →
            ∃ reason, reason.fault = .nestedTooDeep ∧
              (Report.openFrom path).effect session =
                (.error (.undecoded reason), session.state) := by
  refine ⟨?unbounded, ?wrapped, ?bounded⟩
  case unbounded =>
    intro text reason hparse
    exact Json.fault_of_parse hparse
  case wrapped =>
    intro marker body wrappers text tree hne hparse
    exact ⟨Wrapper.parse_textIn hne wrappers hparse, Wrapper.ofTree_valueIn hne wrappers tree⟩
  case bounded =>
    intro path session octets document hopen hread hdeep
    rcases Report.fetch_of_read hopen hread with ⟨hle, -⟩ | ⟨-, reason, hfetch, hfault⟩
    · exact absurd (Nat.le_trans hdeep hle) (by decide)
    · refine ⟨reason, hfault, ?_⟩
      rw [Report.hasEffect_openFrom path session]
      simp only [hfetch]
      rfl

/-! ### A tree in a few containers, and in many -/

/-- No blanks. -/
def Gap.none : Gap := ⟨"", List.all_eq_true.mp (by decide)⟩

/-- A line that begins with a tab. -/
def Gap.line : Gap := ⟨"\n\t", List.all_eq_true.mp (by decide)⟩

/-- Members without blanks. -/
def Spacing.tight : Spacing := ⟨.none, .none, .none, .none⟩

/-- An object of a kind, an array, an object without a kind, and an object of the
first kind with its members in the other order. -/
def Wrapper.few : List Wrapper :=
  [.node "\"\n" true .tight ⟨.line, .none, .line, .line⟩, .array .line .none,
    .node "" true .tight .tight, .node "\"\n" false ⟨.none, .line, .none, .none⟩ .tight]

/-- The tree of a text that ends in an exponent. -/
def Json.one : Json :=
  .number (.double ⟨0x3FF0000000000000⟩)

/-- So many arrays that no report is as deep. -/
def Wrapper.many : List Wrapper :=
  List.replicate 128 (.array .none .none)

/-- The octets of a document in so many arrays. -/
def Wrapper.deepOctets : List UInt8 :=
  Utf8.encode (textIn "kind" "body" many "0")

/-- Files of which one is that deep. -/
def FileSystem.deep : FileSystem :=
  ⟨.directory [("deep.json", .file Wrapper.deepOctets false)], []⟩

/-- The only file there is, opened by its name. -/
theorem openPath_of_one_file (octets : List UInt8) :
    (⟨.directory [("deep.json", .file octets false)], []⟩ : FileSystem).openPath "deep.json" =
      .ok (.content octets) := by
  have hpath : FileSystem.rejects? "deep.json" = none ∧ FileSystem.origin [] "deep.json" = [] ∧
      FileSystem.steps "deep.json" = ["deep.json"] := by decide +kernel
  have hshort : ¬ FileSystem.maxName < "deep.json".utf8ByteSize := by decide
  simp [FileSystem.openPath, FileSystem.find, FileSystem.locate, hpath, hshort,
    FileSystem.walk, Entry.at?, Entry.child?, Keyed.lookup]

theorem openPath_deep :
    FileSystem.deep.openPath "deep.json" = .ok (.content Wrapper.deepOctets) :=
  openPath_of_one_file Wrapper.deepOctets

/-- A few wrappers around a number are parsed and counted; a file with more of them is nested too
deep. -/
theorem parse_any_depth_openFrom_bounded_sample :
    "body" ≠ "kind" ∧ Json.parse " 1e0" = .ok .one ∧
      Json.parse (Wrapper.textIn "kind" "body" Wrapper.few " 1e0") =
        .ok (Wrapper.valueIn "kind" "body" Wrapper.few .one) ∧
      (Histogram.ofTree "kind" (Wrapper.valueIn "kind" "body" Wrapper.few .one)).entries =
        [("\"\n", 2)] ∧
      ∃ reason, reason.fault = .nestedTooDeep ∧
        (Report.openFrom "deep.json").effect ⟨.deep, #[]⟩ =
          (.error (.undecoded reason), .deep) := by
  have hne : "body" ≠ "kind" := by decide
  have hparse : Json.parse " 1e0" = .ok .one := by decide +kernel
  have hzero : Json.parse "0" = .ok (.number (.whole 0)) := by decide +kernel
  obtain ⟨-, hwrapped, hbounded⟩ := parse_any_depth_openFrom_bounded
  obtain ⟨htext, hcounts⟩ := hwrapped "kind" "body" Wrapper.few " 1e0" _ hne hparse
  have hread := Json.parse_eq_ok_iff.mp (Wrapper.parse_textIn hne Wrapper.many hzero)
  have hdeep : 128 ≤ Json.nesting Wrapper.deepOctets :=
    Wrapper.length_le_nesting hne Wrapper.many hzero
  refine ⟨hne, hparse, htext, ?_, ?_⟩
  · rw [hcounts]
    decide +kernel
  · exact hbounded "deep.json" ⟨.deep, #[]⟩ _ _ openPath_deep hread hdeep

end SyntaxCensus
