import SyntaxCensus.Proofs.Toolchain.Transparency

/-!
# Requests that are read back

The request for a file is printed from a document and read back as that
document, whichever characters the name of the file and the source have.  The
two texts stand where they belong and nowhere else: the rest of the request is
the same for every file, and requests that are the same text are requests for
the same source under the same name.

Main results:

- `Toolchain.parse_request`: a request is read back as its document.
- `Toolchain.holdsAt_sources_iff`: what a request holds about its file.
- `Toolchain.request_reads_back`: no name and no source changes anything else.
-/

namespace SyntaxCensus

/-! ## Keys that lead through small values -/

namespace Json

theorem holdsAt_string_iff {text : String} {keys : List String} {value : Json} :
    (string text).HoldsAt keys value ↔ keys = [] ∧ value = .string text := by
  cases keys with
  | nil => simp [holdsAt_nil_iff, eq_comm]
  | cons key more => simp [holdsAt_cons_iff, member?]

/-- In an object with one member one key leads on. -/
theorem holdsAt_singleton_iff {key : String} {inner value : Json} {keys : List String} :
    (object [(key, inner)]).HoldsAt keys value ↔
      keys = [] ∧ value = .object [(key, inner)] ∨
        ∃ more, keys = key :: more ∧ inner.HoldsAt more value := by
  cases keys with
  | nil => simp [holdsAt_nil_iff, eq_comm]
  | cons first more =>
      by_cases hkey : key = first
      · simp [holdsAt_cons_iff, member?, Keyed.lookup, hkey]
      · simp [holdsAt_cons_iff, member?, Keyed.lookup, hkey, Ne.symm hkey]

end Json

namespace Toolchain

/-! ## The document of a request -/

/-- The keys of a request are all different. -/
theorem wellFormed_requestJson (file source : String) : (requestJson file source).WellFormed := by
  have houter : "language" < "settings" ∧ "language" < "sources" ∧ "settings" < "sources" := by
    decide
  have hselection : "" < "*" := by decide
  simp only [requestJson, outputSelection, Json.WellFormed, Json.WellFormedItems,
    Json.WellFormedMembers, Keyed.sorted_cons, Keyed.sorted_nil, List.forall_mem_cons,
    List.not_mem_nil, false_implies, implies_true, houter, hselection, and_self]

/-- There is no number in a request. -/
theorem hasWholeNumbers_requestJson (file source : String) :
    (requestJson file source).HasWholeNumbers := by
  simp only [requestJson, outputSelection, Json.HasWholeNumbers, Json.HaveWholeNumbers,
    Json.MembersHaveWholeNumbers, and_self]

/-- A request is read back as the document that it was printed from. -/
theorem parse_request (file source : String) :
    Json.parse (Toolchain.current.request file source) = .ok (requestJson file source) :=
  Json.parse_of_printsAs (wellFormed_requestJson file source)
    (hasWholeNumbers_requestJson file source) (.inl rfl)

/-- The name and the source are found in the document again. -/
theorem requestJson_inj {file source otherFile otherSource : String} :
    requestJson file source = requestJson otherFile otherSource ↔
      file = otherFile ∧ source = otherSource := by
  simp [requestJson]

/-- The name and the source are found in the text again. -/
theorem request_inj {file source otherFile otherSource : String} :
    Toolchain.current.request file source = Toolchain.current.request otherFile otherSource ↔
      file = otherFile ∧ source = otherSource := by
  constructor
  · intro h
    have hparse := parse_request file source
    rw [h, parse_request otherFile otherSource] at hparse
    exact requestJson_inj.mp (Except.ok.inj hparse).symm
  · rintro ⟨rfl, rfl⟩
    rfl

/-! ## The parts of a request -/

/-- A request holds one file under its name, and of that only the source. -/
theorem holdsAt_sources_iff {file source : String} {keys : List String} {value : Json} :
    (requestJson file source).HoldsAt ("sources" :: keys) value ↔
      keys = [] ∧ value = .object [(file, .object [("content", .string source)])] ∨
      keys = [file] ∧ value = .object [("content", .string source)] ∨
      keys = [file, "content"] ∧ value = .string source := by
  have hmember : (requestJson file source).member? "sources" =
      some (.object [(file, .object [("content", .string source)])]) := by
    have hkeys : "language" ≠ "sources" ∧ "settings" ≠ "sources" := by decide
    simp [requestJson, Json.member?, Keyed.lookup, hkeys]
  simp only [Json.holdsAt_cons_iff, hmember, Option.some.injEq, exists_eq_left',
    Json.holdsAt_singleton_iff, Json.holdsAt_string_iff]
  constructor
  · rintro (hwhole | ⟨_, rfl, ⟨rfl, hfile⟩ | ⟨_, rfl, rfl, hcontent⟩⟩)
    · exact .inl hwhole
    · exact .inr (.inl ⟨rfl, hfile⟩)
    · exact .inr (.inr ⟨rfl, hcontent⟩)
  · rintro (hwhole | ⟨rfl, hfile⟩ | ⟨rfl, hcontent⟩)
    · exact .inl hwhole
    · exact .inr ⟨[], rfl, .inl ⟨rfl, hfile⟩⟩
    · exact .inr ⟨["content"], rfl, .inr ⟨[], rfl, rfl, hcontent⟩⟩

/-- What else a request holds is the same for every file. -/
theorem holdsAt_requestJson_congr {file source otherFile otherSource key : String}
    (hkey : key ≠ "sources") {keys : List String} {value : Json} :
    (requestJson file source).HoldsAt (key :: keys) value ↔
      (requestJson otherFile otherSource).HoldsAt (key :: keys) value := by
  have hmember : (requestJson file source).member? key =
      (requestJson otherFile otherSource).member? key := by
    simp [requestJson, Json.member?, Keyed.lookup, Ne.symm hkey]
  rw [Json.holdsAt_cons_iff, Json.holdsAt_cons_iff, hmember]

/-- The request for a file is read back as a document with the language, the
fixed settings, and the source as the only content of the only file.  A request
for another file differs from it below the sources only, where it holds that
file's name and source and nothing else; and it is another text. -/
theorem request_reads_back (file source otherFile otherSource : String) :
    ∃ document other,
      Json.parse (Toolchain.current.request file source) = .ok document ∧
      Json.parse (Toolchain.current.request otherFile otherSource) = .ok other ∧
      document = .object
        [("language", .string "Solidity"),
          ("settings", .object [("outputSelection", .object
            [("*", .object [("", .array [.string "ast"]), ("*", .array [.string "*"])])])]),
          ("sources", .object [(file, .object [("content", .string source)])])] ∧
      (∀ key keys value, key ≠ "sources" →
        (document.HoldsAt (key :: keys) value ↔ other.HoldsAt (key :: keys) value)) ∧
      (∀ keys value, document.HoldsAt ("sources" :: keys) value ↔
        keys = [] ∧ value = .object [(file, .object [("content", .string source)])] ∨
        keys = [file] ∧ value = .object [("content", .string source)] ∨
        keys = [file, "content"] ∧ value = .string source) ∧
      (Toolchain.current.request file source = Toolchain.current.request otherFile otherSource ↔
        file = otherFile ∧ source = otherSource) :=
  ⟨requestJson file source, requestJson otherFile otherSource, parse_request file source,
    parse_request otherFile otherSource, rfl, fun _ _ _ hkey => holdsAt_requestJson_congr hkey,
    fun _ _ => holdsAt_sources_iff, request_inj⟩

end Toolchain
end SyntaxCensus
