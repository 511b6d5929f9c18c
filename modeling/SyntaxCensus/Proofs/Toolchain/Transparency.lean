import SyntaxCensus.Proofs.Json.ReadBack
import SyntaxCensus.Proofs.Toolchain.Fallback

/-!
# Trees through printed answers

A compiler answers with text.  If it prints a document of whole numbers that
holds a tree for the file, the file's histogram is that of the tree, whatever
else the document holds, however deep the tree is, and whichever characters its
texts and the name of the file have.

Main definitions:

- `Json.PrintsAs`: the printed forms of a document.

Main results:

- `Json.parse_of_printsAs`: a document is read back from its printed forms.
- `Toolchain.answers_of_printsAs`: a printed document answers the tree it holds.
- `Compilers.analyze_of_printed`: the histogram is that of the printed tree.
-/

namespace SyntaxCensus

namespace Json

/-- A text is one of the two printed forms of a document. -/
def PrintsAs (document : Json) (text : String) : Prop :=
  text = document.compact ∨ text = document.indented

/-- A document is read back from its printed forms. -/
theorem parse_of_printsAs {document : Json} {text : String} (hformed : document.WellFormed)
    (hwhole : document.HasWholeNumbers) (hprint : document.PrintsAs text) :
    parse text = .ok document := by
  rcases hprint with rfl | rfl
  · rw [compact_eq]
    exact parse_rendered .compact hformed hwhole
  · rw [indented_eq]
    exact parse_rendered .indented hformed hwhole

end Json

/-- A printed document answers the tree that it holds for a file. -/
theorem Toolchain.answers_of_printsAs {toolchain : Toolchain} {file text : String}
    {document tree : Json} (hformed : document.WellFormed) (hwhole : document.HasWholeNumbers)
    (hprint : document.PrintsAs text) (hholds : document.HoldsAt (toolchain.treePath file) tree)
    (htree : tree ≠ .null) : toolchain.Answers file text tree :=
  ⟨document, Json.parse_of_printsAs hformed hwhole hprint, hholds, htree⟩

namespace Compilers

/-- If the current compiler prints a document that holds a tree for the file, the
outcome is the histogram of that tree and no other compiler is called.  If it
answers no tree and the legacy compiler prints a document that holds one, the
outcome is the histogram of that tree. -/
theorem analyze_of_printed (reply : Toolchain → String → Except CompilerError String)
    (file source : String) {document tree : Json} (hformed : document.WellFormed)
    (hwhole : document.HasWholeNumbers) (htree : tree ≠ .null) {text : String}
    (hprint : document.PrintsAs text) (session : Session Trace) :
    (reply .current (Toolchain.current.request file source) = .ok text →
      document.HoldsAt ["sources", file, "ast"] tree →
      ((Trace.compilers reply).analyze file source).effect session =
        (.ok (.compiled file (.ofTree "nodeType" tree)),
          session.state ++ Trace.ofCalls [⟨.current, Toolchain.current.request file source⟩])) ∧
    (FallsBack reply file source → reply .legacy source = .ok text →
      document.HoldsAt ["sources", "", "AST"] tree →
      ((Trace.compilers reply).analyze file source).effect session =
        (.ok (.compiled file (.ofTree "name" tree)),
          session.state ++ Trace.ofCalls
            [⟨.current, Toolchain.current.request file source⟩, ⟨.legacy, source⟩])) := by
  have hleaves := leaves_analyzeBy reply file source Toolchain.priority session
  refine ⟨?current, ?legacy⟩
  case current =>
    intro hreply hholds
    have hanswers : Toolchain.current.Answers file text tree :=
      Toolchain.answers_of_printsAs hformed hwhole hprint hholds htree
    rw [Toolchain.priority, fallback_of_answers hreply hanswers] at hleaves
    exact hleaves
  case legacy =>
    rintro ⟨_, hcurrent, hlacks⟩ hreply hholds
    have hanswers : Toolchain.legacy.Answers file text tree :=
      Toolchain.answers_of_printsAs hformed hwhole hprint hholds htree
    rw [Toolchain.priority, fallback_of_lacks hcurrent hlacks,
      fallback_of_answers hreply hanswers] at hleaves
    exact hleaves

/-- A tree of two nodes, which either marker finds. -/
def twoNodes : Json :=
  .object [("children", .array [.object [("name", .string "B"), ("nodeType", .string "B")]]),
    ("name", .string "A"), ("nodeType", .string "A")]

/-- An answer that holds the tree under a file and a key, among other things. -/
def crowded (file key : String) : Json :=
  .object [("errors", .array [.null, .number (.whole (-1))]),
    ("sources", .object [(file, .object [(key, twoNodes), ("id", .number (.whole 0))])])]

/-- The tree is among other members, under a name with a quote and a line feed, for both toolchains.
-/
theorem analyze_of_printed_crowded :
    ((Trace.compilers fun _ _ => .ok (crowded "a\"\n" "ast").compact).analyze "a\"\n" "x").effect
        ⟨[], #[]⟩ =
      (.ok (.compiled "a\"\n" (.ofTree "nodeType" twoNodes)),
        Trace.ofCalls [⟨.current, Toolchain.current.request "a\"\n" "x"⟩]) ∧
    ((Trace.compilers fun
        | .current, _ => .ok "no document"
        | .legacy, _ => .ok (crowded "" "AST").indented).analyze "a\"\n" "x").effect ⟨[], #[]⟩ =
      (.ok (.compiled "a\"\n" (.ofTree "name" twoNodes)),
        Trace.ofCalls
          [⟨.current, Toolchain.current.request "a\"\n" "x"⟩, ⟨.legacy, "x"⟩]) := by
  have hformed : (crowded "a\"\n" "ast").WellFormed ∧ (crowded "" "AST").WellFormed := by
    simp only [crowded, twoNodes, Json.WellFormed, Json.WellFormedItems, Json.WellFormedMembers,
      Keyed.Sorted, Number.InRange, Number.maxNegative, Number.maxWhole]
    decide
  have hwhole : (crowded "a\"\n" "ast").HasWholeNumbers ∧ (crowded "" "AST").HasWholeNumbers := by
    simp [crowded, twoNodes, Json.HasWholeNumbers, Json.HaveWholeNumbers,
      Json.MembersHaveWholeNumbers]
  have hnull : twoNodes ≠ .null := by simp [twoNodes]
  refine ⟨(analyze_of_printed _ _ _ hformed.1 hwhole.1 hnull (.inl rfl) ⟨[], #[]⟩).1 rfl ?_,
    (analyze_of_printed _ _ _ hformed.2 hwhole.2 hnull (.inr rfl) ⟨[], #[]⟩).2 ?_ rfl ?_⟩
  · exact .member rfl (.member rfl (.member rfl (.here _)))
  · refine ⟨"no document", rfl, (Toolchain.treeIn?_eq_none_iff _ _ _).mp ?_⟩
    decide +kernel
  · exact .member rfl (.member rfl (.member rfl (.here _)))

end Compilers
end SyntaxCensus
