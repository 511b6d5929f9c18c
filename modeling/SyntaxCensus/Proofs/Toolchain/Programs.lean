import SyntaxCensus.Process.Compiling
import SyntaxCensus.Proofs.Json.Quotation
import SyntaxCensus.Proofs.Text.Decoding
import SyntaxCensus.Proofs.Toolchain.Fallback

/-!
# What compiler programs write

A compiler program may write any octets.  Those that begin no character are
shown as U+FFFD, which a document has between quotes only: output with such
octets outside quotes is no document, so the next toolchain is asked.  Between
quotes they become part of a text, and the tree around them is counted.

Main definitions:

- `Utf8.StraysAt`: octets that begin no character stand outside quotes, or
  between them.

Main results:

- `Utf8.decode?_eq_none_iff_strays`: invalid octets are those with strays.
- `Json.parse_ne_ok_of_strays`: octets with strays outside quotes are no
  document.
- `Compiler.effect_ofProgram`: a program answers what it wrote.
- `Compilers.passes_over_strays`: what trying a program's toolchain finds, and
  what follows if it finds nothing.
-/

namespace SyntaxCensus

/-! ## Octets that begin no character -/

namespace Utf8

/-- Some octets that begin no character stand at a place, by the text that is
shown for the octets before them. -/
def StraysAt (place : Quotation) (octets : List UInt8) : Prop :=
  ∃ before size later, parts octets = before ++ .invalid size :: later ∧
    Quotation.outside.afterAll (encode (String.ofList (before.map Part.shown))) = place

/-- Octets are invalid exactly if there are strays at some place. -/
theorem decode?_eq_none_iff_strays {octets : List UInt8} :
    decode? octets = none ↔ ∃ place, StraysAt place octets := by
  rw [decode?_eq_none_iff]
  constructor
  · rintro ⟨size, hpart⟩
    obtain ⟨before, later, hparts⟩ := List.append_of_mem hpart
    exact ⟨_, before, size, later, hparts, rfl⟩
  · rintro ⟨place, before, size, later, hparts, -⟩
    exact ⟨size, by rw [hparts]; exact List.mem_append_cons_self⟩

end Utf8

namespace Json

/-- Octets with strays outside quotes are no document. -/
theorem parse_ne_ok_of_strays {octets : List UInt8} (h : Utf8.StraysAt .outside octets)
    (document : Json) : parse (Utf8.decodeLossy octets) ≠ .ok document := by
  obtain ⟨before, size, later, hparts, hplace⟩ := h
  intro hparse
  have hshown : String.utf8EncodeChar (Utf8.Part.invalid size).shown = [0xEF, 0xBF, 0xBD] := by
    simp only [Utf8.Part.shown]
    decide
  have hoctets : Utf8.encode (Utf8.decodeLossy octets) =
      Utf8.encode (String.ofList (before.map Utf8.Part.shown)) ++
        0xEF :: 0xBF :: 0xBD ::
          (later.map Utf8.Part.shown).flatMap String.utf8EncodeChar := by
    rw [Utf8.decodeLossy, hparts, Utf8.encode_ofList, Utf8.encode_ofList, List.map_append,
      List.flatMap_append, List.map_cons, List.flatMap_cons, hshown]
    rfl
  exact absurd (lt_of_outside hparse hoctets hplace) (by decide)

end Json

/-- Output with strays outside quotes answers no tree. -/
theorem Toolchain.not_answers_of_strays {octets : List UInt8} (h : Utf8.StraysAt .outside octets)
    (toolchain : Toolchain) (file : String) (tree : Json) :
    ¬ toolchain.Answers file (Utf8.decodeLossy octets) tree := by
  rintro ⟨document, hparse, -⟩
  exact Json.parse_ne_ok_of_strays h document hparse

/-! ## Programs as compilers -/

variable {σ : Type}

/-- What is told about a program that ran is of no consequence. -/
theorem Finished.hasEffect_tell (finished : Finished) (program : String) :
    Action.HasEffect (σ := σ) (finished.tell program) fun state => (.ok (), state) := by
  unfold Finished.tell
  split
  · split
    · exact .log_bind _ _ _ (Action.hasEffect_log _ _ _)
    · exact Action.hasEffect_log _ _ _
  · split
    · exact .log_bind _ _ _ (Action.hasEffect_pure ())
    · exact Action.hasEffect_pure ()

/-- A program that ran answers what it wrote, whatever its status. -/
theorem Compiler.effect_ofProgram {launch : Launcher σ} {program : String}
    {arguments : List String} {input : String} {session : Session σ} {finished : Finished}
    {after : σ}
    (hlaunch : launch program arguments (Utf8.encode input) session.state =
      (.ok finished, after)) :
    (ofProgram launch program arguments input).effect session =
      (.ok (Utf8.decodeLossy finished.output), after) := by
  have hanswer (finished : Finished) :=
    (finished.hasEffect_tell (σ := σ) program).bind fun _ =>
      Action.hasEffect_pure (Utf8.decodeLossy finished.output)
  have heffect : Action.HasEffect (ofProgram launch program arguments input) _ :=
    .log_bind _ _ _ ((Action.hasEffect_onState _).bind hanswer)
  rw [heffect session]
  simp only [Action.andThen, hlaunch]

namespace Compilers

variable {compilers : Compilers σ} {toolchain : Toolchain} {file source text : String}
  {session : Session σ} {after : σ}

/-- Trying a toolchain gives the histogram of the tree that its compiler
answers. -/
theorem effect_tryToolchain
    (hcall : (compilers.of toolchain (toolchain.request file source)).effect session =
      (.ok text, after)) :
    (compilers.tryToolchain toolchain file source).effect session =
      (.ok ((toolchain.treeIn? file text).map (Histogram.ofTree toolchain.marker)), after) := by
  obtain ⟨journal, hnext⟩ := Action.effect_bind_of_ok hcall _
  unfold tryToolchain
  refine hnext.trans ?_
  cases hparse : Json.parse text with
  | error reason =>
      simp only [Toolchain.treeIn?, hparse]
      rfl
  | ok document =>
      simp only [Toolchain.treeIn?, hparse]
      rfl

/-- Trying the toolchain of a program that ran gives the histogram of the tree in
the text that is shown for its output. -/
theorem effect_tryToolchain_of_ran {launch : Launcher σ} {program : String}
    {arguments : List String} {finished : Finished}
    (hprogram : compilers.of toolchain = .ofProgram launch program arguments)
    (hlaunch : launch program arguments (Utf8.encode (toolchain.request file source))
      session.state = (.ok finished, after)) :
    (compilers.tryToolchain toolchain file source).effect session =
      (.ok ((toolchain.treeIn? file (Utf8.decodeLossy finished.output)).map
        (Histogram.ofTree toolchain.marker)), after) := by
  apply effect_tryToolchain
  rw [hprogram]
  exact Compiler.effect_ofProgram hlaunch

/-- A toolchain without a tree is passed over. -/
theorem effect_analyzeBy_of_none
    (htry : (compilers.tryToolchain toolchain file source).effect session = (.ok none, after))
    (rest : List Toolchain) :
    ∃ journal, (compilers.analyzeBy file source (toolchain :: rest)).effect session =
      (compilers.analyzeBy file source rest).effect ⟨after, journal⟩ := by
  obtain ⟨journal, hnext⟩ := Action.effect_bind_of_ok htry _
  exact ⟨_, hnext⟩

/-- The last toolchain without a tree leaves the file uncompiled. -/
theorem effect_analyzeBy_singleton_of_none
    (htry : (compilers.tryToolchain toolchain file source).effect session = (.ok none, after)) :
    (compilers.analyzeBy file source [toolchain]).effect session =
      (.ok (.failed file notCompiled), after) := by
  obtain ⟨journal, hnext⟩ := effect_analyzeBy_of_none htry []
  rw [hnext]
  rfl

/-- Trying the toolchain of a program that ran finds the histogram of the tree in
the text that is shown for its output, and nothing if that has no tree.  In
particular it finds nothing in output with strays outside quotes, and so in
invalid output whose strays do not stand between quotes.  If nothing is found,
the toolchains that remain are asked, and without any the file is not
compiled. -/
theorem passes_over_strays (compilers : Compilers σ) {toolchain : Toolchain}
    {launch : Launcher σ} {program : String} {arguments : List String}
    (hprogram : compilers.of toolchain = .ofProgram launch program arguments)
    (file source : String) (session : Session σ) {finished : Finished} {after : σ}
    (hlaunch : launch program arguments (Utf8.encode (toolchain.request file source))
      session.state = (.ok finished, after)) :
    ∃ found : Option Histogram,
      (compilers.tryToolchain toolchain file source).effect session = (.ok found, after) ∧
        (∀ histogram, found = some histogram ↔
          ∃ tree, toolchain.Answers file (Utf8.decodeLossy finished.output) tree ∧
            .ofTree toolchain.marker tree = histogram) ∧
        (Utf8.StraysAt .outside finished.output → found = none) ∧
        (Utf8.decode? finished.output = none →
          (∀ place, Utf8.StraysAt place finished.output → place = .outside) → found = none) ∧
        (found = none → ∀ rest, ∃ journal,
          (compilers.analyzeBy file source (toolchain :: rest)).effect session =
            (compilers.analyzeBy file source rest).effect ⟨after, journal⟩) ∧
        (found = none →
          (compilers.analyzeBy file source [toolchain]).effect session =
            (.ok (.failed file "not compiled"), after)) := by
  have htry := effect_tryToolchain_of_ran hprogram hlaunch
  have hstrays (h : Utf8.StraysAt .outside finished.output) :
      (toolchain.treeIn? file (Utf8.decodeLossy finished.output)).map
        (Histogram.ofTree toolchain.marker) = none := by
    rw [Option.map_eq_none_iff, Toolchain.treeIn?_eq_none_iff]
    exact Toolchain.not_answers_of_strays h toolchain file
  refine ⟨_, htry, ?tree, hstrays, ?invalid, ?next, ?last⟩
  case tree =>
    intro histogram
    simp only [Option.map_eq_some_iff, Toolchain.treeIn?_eq_some_iff]
  case invalid =>
    intro hinvalid houtside
    obtain ⟨place, hplace⟩ := Utf8.decode?_eq_none_iff_strays.mp hinvalid
    obtain rfl := houtside place hplace
    exact hstrays hplace
  case next =>
    intro hnone
    exact effect_analyzeBy_of_none (htry.trans (by rw [hnone]))
  case last =>
    intro hnone
    exact effect_analyzeBy_singleton_of_none (htry.trans (by rw [hnone]))

/-- Every program writes these octets, whatever it is given. -/
def writer (octets : List UInt8) : Launcher Unit :=
  fun _ _ _ state => (.ok ⟨octets, [], 0, .exited 0⟩, state)

/-- Compilers that write these octets. -/
def writing (octets : List UInt8) : Compilers Unit :=
  .ofPrograms (writer octets) "solc" "solc-legacy" []

/-- Octets that begin no character, and nothing else. -/
theorem passes_over_strays_alone :
    Utf8.StraysAt .outside [0xFF, 0xFE] ∧
    ((writing [0xFF, 0xFE]).tryToolchain .current "a.sol" "x").effect ⟨(), #[]⟩ =
      (.ok none, ()) ∧
    ((writing [0xFF, 0xFE]).analyzeBy "a.sol" "x" [.legacy]).effect ⟨(), #[]⟩ =
      (.ok (.failed "a.sol" "not compiled"), ()) := by
  have hstrays : Utf8.StraysAt .outside [0xFF, 0xFE] :=
    ⟨[], 1, [.invalid 1], by decide +kernel, rfl⟩
  have hcurrent : (writing [0xFF, 0xFE]).of .current =
      .ofProgram (writer [0xFF, 0xFE]) "solc" [] := rfl
  have hlegacy : (writing [0xFF, 0xFE]).of .legacy =
      .ofProgram (writer [0xFF, 0xFE]) "solc-legacy" [] := rfl
  obtain ⟨_, htry, -, hnone, -⟩ := passes_over_strays _ hcurrent "a.sol" "x" ⟨(), #[]⟩ rfl
  obtain ⟨_, -, -, hnone', -, -, hlast⟩ := passes_over_strays _ hlegacy "a.sol" "x" ⟨(), #[]⟩ rfl
  exact ⟨hstrays, by rw [htry, hnone hstrays], hlast (hnone' hstrays)⟩

/-- An octet that begins no character, in the text that names a node. -/
def quotedStray : List UInt8 :=
  Utf8.encode "\x7b\"sources\":\x7b\"a.sol\":\x7b\"ast\":\x7b\"nodeType\":\"" ++
    0xFF :: Utf8.encode "\"\x7d\x7d\x7d\x7d"

/-- Octets that are not valid, and a tree all the same. -/
theorem counts_quotedStray :
    Utf8.decode? quotedStray = none ∧
    ((writing quotedStray).tryToolchain .current "a.sol" "x").effect ⟨(), #[]⟩ =
      (.ok (some (.ofTree "nodeType" (.object [("nodeType", .string "\uFFFD")]))), ()) := by
  have htree : Toolchain.current.treeIn? "a.sol" (Utf8.decodeLossy quotedStray) =
      some (.object [("nodeType", .string "\uFFFD")]) := by
    decide +kernel
  have hprogram : (writing quotedStray).of .current =
      .ofProgram (writer quotedStray) "solc" [] := rfl
  have hlaunch : writer quotedStray "solc" [] (Utf8.encode (Toolchain.current.request "a.sol" "x"))
      () = (.ok ⟨quotedStray, [], 0, .exited 0⟩, ()) := rfl
  refine ⟨by decide +kernel, ?_⟩
  rw [effect_tryToolchain_of_ran hprogram hlaunch, htree]
  rfl

end Compilers
end SyntaxCensus
