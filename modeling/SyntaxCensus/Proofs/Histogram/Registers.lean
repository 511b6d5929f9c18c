import Mathlib.Algebra.BigOperators.Group.Finset.Basic
import Mathlib.Algebra.GroupWithZero.Nat
import Mathlib.Logic.Function.Basic
import SyntaxCensus.Histogram.Reader
import SyntaxCensus.Proofs.Histogram.Documents
import SyntaxCensus.Proofs.Histogram.Occurrences
import SyntaxCensus.Proofs.Histogram.Sums
import SyntaxCensus.Proofs.Report.Totals
import SyntaxCensus.Proofs.Text.Order

/-!
# Histograms and what they counted

Registers hold histograms, and operations fill and change them in any order.  A
register's history lists what was counted into it: single pairs of kind and
count, and whole trees.  After every run the count of a kind is what the history
contributes to it, so a histogram stands for a finite multiset of kinds, whatever
operations built it.

Main definitions:

- `Registers.Operation`, `Registers.run`: operations on registers.
- `Contribution.amount`: how much a contribution counts for a kind.
- `Registers.history`: what was counted into a register.

Main results:

- `Registers.agrees_step`, `Registers.agrees_run`: one operation and all of them
  keep registers and histories together.
- `Registers.run_refines_history`: what a register holds after any operations.
-/

namespace SyntaxCensus

/-! ## Contributions -/

/-- Something that was counted: occurrences of a kind, or the nodes of a tree
under a marker. -/
inductive Contribution where
  | occurrences (kind : String) (count : Nat)
  | nodes (marker : String) (tree : Json)

namespace Contribution

/-- How much a contribution counts for a kind. -/
def amount (kind : String) : Contribution → Nat
  | .occurrences other count => if other = kind then count else 0
  | .nodes marker tree => tree.occurrences marker kind

/-- How much contributions count for a kind together. -/
def total (kind : String) (contributions : List Contribution) : Nat :=
  (contributions.map (amount kind)).sum

theorem total_append (kind : String) (first second : List Contribution) :
    total kind (first ++ second) = total kind first + total kind second := by
  rw [total, List.map_append, List.sum_append, total, total]

/-- The contributions of pairs of kind and count. -/
def ofPairs (pairs : List (String × Nat)) : List Contribution :=
  pairs.map fun pair => .occurrences pair.1 pair.2

/-- Pairs contribute what they add to a histogram. -/
theorem total_ofPairs (kind : String) (pairs : List (String × Nat)) :
    total kind (ofPairs pairs) = Histogram.added kind pairs := by
  induction pairs with
  | nil => rfl
  | cons pair rest ih =>
      have hstep : Histogram.added kind (pair :: rest) =
          (if pair.1 = kind then pair.2 else 0) + Histogram.added kind rest := rfl
      rw [hstep, ← ih]
      rfl

end Contribution

/-! ## Counts in a text -/

namespace Histogram

/-- The pairs of kind and count that a text writes, in order, if it is an object
of counts. -/
def writtenPairs? (text : String) : Option (List (String × Nat)) :=
  match scanObject (Utf8.encode text) with
  | .error _ => none
  | .ok (pairs, rest) => if (skipBlanks rest).isEmpty then some pairs else none

/-- The pairs whose kind is not written again after them. -/
def lastPairs : List (String × Nat) → List (String × Nat)
  | [] => []
  | pair :: rest =>
      if pair.1 ∈ rest.map Prod.fst then lastPairs rest else pair :: lastPairs rest

/-- What is read from a text is the histogram of the pairs written in it. -/
theorem toOption_parse (text : String) :
    (parse text).toOption =
      (writtenPairs? text).map fun pairs => ofPairs (Keyed.ofBindings pairs) := by
  have hparse : (parse text).toOption = (read (Utf8.encode text)).toOption := by
    simp only [parse]
    cases read (Utf8.encode text) <;> rfl
  rw [hparse, read, writtenPairs?]
  cases scanObject (Utf8.encode text) with
  | error stop => rfl
  | ok scanned =>
      obtain ⟨pairs, rest⟩ := scanned
      cases hrest : skipBlanks rest with
      | nil => simp [hrest, Except.toOption]
      | cons octet more => simp [hrest, Except.toOption]

/-- Of several pairs of one kind the last one counts. -/
theorem added_ofBindings (kind : String) (pairs : List (String × Nat)) :
    added kind (Keyed.ofBindings pairs) = added kind (lastPairs pairs) := by
  rw [added_of_sorted (Keyed.sorted_ofBindings pairs)]
  induction pairs with
  | nil => rfl
  | cons pair rest ih =>
      rw [Keyed.lookup_ofBindings_cons, lastPairs]
      by_cases hlater : pair.1 ∈ rest.map Prod.fst
      · rw [if_pos hlater, ← ih]
        cases hrest : Keyed.lookup kind (Keyed.ofBindings rest) with
        | some count => rfl
        | none =>
            have hkind : pair.1 ≠ kind := fun heq =>
              Keyed.lookup_ofBindings_eq_none_iff.mp hrest (heq ▸ hlater)
            simp [hkind]
      · have hstep : added kind (pair :: lastPairs rest) =
            (if pair.1 = kind then pair.2 else 0) + added kind (lastPairs rest) := rfl
        rw [if_neg hlater, hstep, ← ih]
        by_cases hkind : pair.1 = kind
        · have hnone : Keyed.lookup kind (Keyed.ofBindings rest) = none :=
            Keyed.lookup_ofBindings_eq_none_iff.mpr (hkind ▸ hlater)
          simp [hkind, hnone]
        · simp [hkind]

end Histogram

/-! ## Operations -/

/-- Registers that hold histograms. -/
abbrev Registers (ι : Type) := ι → Histogram

namespace Registers

variable {ι : Type}

/-- The result for a file of a corpus: a histogram that is in a register, or a
failure. -/
inductive Entry (ι : Type) where
  | compiled (file : String) (register : ι)
  | failed (file : String) (reason : String)

/-- An operation on the histogram in a register. -/
inductive Operation (ι : Type) where
  | clear (register : ι)
  | record (register : ι) (kind : String)
  | add (register : ι) (kind : String) (count : Nat)
  | merge (register source : ι)
  | ofPairs (register : ι) (pairs : List (String × Nat))
  | parse (register : ι) (text : String)
  | ofJson (register : ι) (document : Json)
  | countTree (register : ι) (marker : String) (tree : Json)
  | totalOf (register : ι) (entries : List (Entry ι))

/-- The register that an operation changes. -/
def Operation.register : Operation ι → ι
  | .clear register | .record register _ | .add register _ _ | .merge register _
  | .ofPairs register _ | .parse register _ | .ofJson register _ | .countTree register _ _
  | .totalOf register _ => register

/-- The result for a file with the histogram from its register. -/
def Entry.result (registers : Registers ι) : Entry ι → FileResult
  | .compiled file register => .compiled file (registers register)
  | .failed file reason => .failed file reason

/-- The histogram that an operation makes for its register; none if a text or a
document cannot be read as one. -/
def Operation.result? (registers : Registers ι) : Operation ι → Option Histogram
  | .clear _ => some .empty
  | .record register kind => some ((registers register).record kind)
  | .add register kind count => some ((registers register).add kind count)
  | .merge register source => some ((registers register).merge (registers source))
  | .ofPairs _ pairs => some (.ofPairs pairs)
  | .parse _ text => (Histogram.parse text).toOption
  | .ofJson _ document => (Histogram.ofJson document).toOption
  | .countTree register marker tree => some ((registers register).countTree marker tree)
  | .totalOf _ entries => some (SyntaxCensus.totalOf (entries.map (Entry.result registers)))

/-! ## Histories -/

/-- What a file contributes, by the histories of the registers. -/
def Entry.contributions (past : ι → List Contribution) : Entry ι → List Contribution
  | .compiled _ register => past register
  | .failed _ _ => []

/-- The history of the register of an operation after it, unless the operation
fails. -/
def Operation.history? (past : ι → List Contribution) : Operation ι → Option (List Contribution)
  | .clear _ => some []
  | .record register kind => some (past register ++ [.occurrences kind 1])
  | .add register kind count => some (past register ++ [.occurrences kind count])
  | .merge register source => some (past register ++ past source)
  | .ofPairs _ pairs => some (Contribution.ofPairs pairs)
  | .parse _ text =>
      (Histogram.writtenPairs? text).map fun pairs =>
        Contribution.ofPairs (Histogram.lastPairs pairs)
  | .ofJson _ document => document.counts?.map Contribution.ofPairs
  | .countTree register marker tree => some (past register ++ [.nodes marker tree])
  | .totalOf _ entries => some (entries.flatMap (Entry.contributions past))

/-! ## What one operation makes -/

/-- A histogram counts what some contributions do. -/
def Counts (h : Histogram) (contributions : List Contribution) : Prop :=
  ∀ kind, h.get kind = Contribution.total kind contributions

/-- Every register counts what its history contributes. -/
def Agrees (registers : Registers ι) (past : ι → List Contribution) : Prop :=
  ∀ register, Counts (registers register) (past register)

/-- A histogram of pairs has the counts of the pairs, as contributions. -/
theorem counts_ofPairs (pairs : List (String × Nat)) :
    Counts (.ofPairs pairs) (Contribution.ofPairs pairs) := by
  intro kind
  rw [Histogram.ofPairs, Histogram.get_addAll, Histogram.get_empty, Nat.zero_add,
    Contribution.total_ofPairs]

/-- The total of files counts what the histories of their registers contribute. -/
theorem counts_totalOf {registers : Registers ι} {past : ι → List Contribution}
    (h : Agrees registers past) (entries : List (Entry ι)) :
    Counts (SyntaxCensus.totalOf (entries.map (Entry.result registers)))
      (entries.flatMap (Entry.contributions past)) := by
  intro kind
  rw [get_totalOf]
  induction entries with
  | nil => rfl
  | cons entry rest ih =>
      rw [List.flatMap_cons, Contribution.total_append, ← ih]
      cases entry with
      | compiled file register =>
          rw [Entry.contributions, ← h register kind]
          rfl
      | failed file reason =>
          rw [Entry.contributions, Contribution.total, List.map_nil, List.sum_nil, Nat.zero_add]
          rfl

/-- An operation makes a histogram that counts its history, or fails. -/
theorem counts_result? {registers : Registers ι} {past : ι → List Contribution}
    (h : Agrees registers past) (operation : Operation ι) :
    Option.Rel Counts (operation.result? registers) (operation.history? past) := by
  cases operation with
  | clear register => exact .some fun kind => rfl
  | record register kind =>
      refine .some fun other => ?_
      rw [Histogram.record_eq_add, Histogram.get_add, Contribution.total_append, h register other]
      rfl
  | add register kind count =>
      refine .some fun other => ?_
      rw [Histogram.get_add, Contribution.total_append, h register other]
      rfl
  | merge register source =>
      refine .some fun kind => ?_
      rw [Histogram.get_merge, Contribution.total_append, h register kind, h source kind]
  | ofPairs register pairs => exact .some (counts_ofPairs pairs)
  | parse register text =>
      rw [Operation.result?, Operation.history?, Histogram.toOption_parse]
      cases Histogram.writtenPairs? text with
      | none => exact .none
      | some pairs =>
          refine .some fun kind => ?_
          rw [counts_ofPairs (Keyed.ofBindings pairs) kind, Contribution.total_ofPairs,
            Contribution.total_ofPairs, Histogram.added_ofBindings]
  | ofJson register document =>
      rw [Operation.result?, Operation.history?, Histogram.toOption_ofJson]
      cases document.counts? with
      | none => exact .none
      | some pairs => exact .some (counts_ofPairs pairs)
  | countTree register marker tree =>
      refine .some fun kind => ?_
      rw [Histogram.countTree, Histogram.get_countPending_singleton, Contribution.total_append,
        h register kind]
      rfl
  | totalOf register entries => exact .some (counts_totalOf h entries)

/-! ## Runs -/

variable [DecidableEq ι]

/-- The registers after an operation; they stay as they are if it fails. -/
def step (registers : Registers ι) (operation : Operation ι) : Registers ι :=
  match operation.result? registers with
  | some h => Function.update registers operation.register h
  | none => registers

/-- The registers, empty at first, after some operations. -/
def run (operations : List (Operation ι)) : Registers ι :=
  operations.foldl step fun _ => .empty

/-- The histories after an operation. -/
def remember (past : ι → List Contribution) (operation : Operation ι) :
    ι → List Contribution :=
  match operation.history? past with
  | some contributions => Function.update past operation.register contributions
  | none => past

/-- What was counted into each register by some operations. -/
def history (operations : List (Operation ι)) : ι → List Contribution :=
  operations.foldl remember fun _ => []

/-- One operation keeps registers and histories together. -/
theorem agrees_step {registers : Registers ι} {past : ι → List Contribution}
    (h : Agrees registers past) (operation : Operation ι) :
    Agrees (step registers operation) (remember past operation) := by
  intro register
  have hresult := counts_result? h operation
  cases hmade : operation.result? registers with
  | none =>
      cases hpast : operation.history? past with
      | none =>
          simp only [step, remember, hmade, hpast]
          exact h register
      | some contributions =>
          rw [hmade, hpast] at hresult
          cases hresult
  | some made =>
      cases hpast : operation.history? past with
      | none =>
          rw [hmade, hpast] at hresult
          cases hresult
      | some contributions =>
          rw [hmade, hpast] at hresult
          simp only [step, remember, hmade, hpast]
          by_cases heq : register = operation.register
          · subst heq
            rw [Function.update_self, Function.update_self]
            cases hresult with
            | some hcounts => exact hcounts
          · rw [Function.update_of_ne heq, Function.update_of_ne heq]
            exact h register

/-- Operations keep registers and histories together. -/
theorem agrees_foldl {registers : Registers ι} {past : ι → List Contribution}
    (h : Agrees registers past) (operations : List (Operation ι)) :
    Agrees (operations.foldl step registers) (operations.foldl remember past) := by
  induction operations generalizing registers past with
  | nil => exact h
  | cons operation rest ih => exact ih (agrees_step h operation)

/-- After any operations every register counts what its history contributes. -/
theorem agrees_run (operations : List (Operation ι)) :
    Agrees (run operations) (history operations) :=
  agrees_foldl (fun _ _ => rfl) operations

/-- An operation that fails leaves all registers as they were. -/
theorem run_append_of_fails {operations : List (Operation ι)} {operation : Operation ι}
    (h : operation.result? (run operations) = none) :
    run (operations ++ [operation]) = run operations := by
  rw [run, List.foldl_append, List.foldl_cons, List.foldl_nil]
  change step (run operations) operation = run operations
  rw [step, h]

/-- After any operations a register has no count of zero, and its kinds ascend by
their octets.  Its count of a kind is what its history contributes to the kind;
its size is the number of kinds that occur, and its total is the sum of their
counts, which is zero exactly if it is empty.  Two registers are equal exactly if
they have the same counts.  A text or a document that cannot be read changes no
register. -/
theorem run_refines_history (operations : List (Operation ι)) (register other : ι) :
    (∀ entry ∈ (run operations register).entries, 1 ≤ entry.2) ∧
      (run operations register).entries.Pairwise
        (fun a b => Utf8.encode a.1 < Utf8.encode b.1) ∧
      (∀ kind, (run operations register).get kind =
        ((history operations register).map (Contribution.amount kind)).sum) ∧
      (∃ kinds : Finset String,
        (∀ kind, kind ∈ kinds ↔ 0 < (run operations register).get kind) ∧
          (run operations register).size = kinds.card ∧
          (run operations register).total = ∑ kind ∈ kinds, (run operations register).get kind) ∧
      ((run operations register).isEmpty = true ↔ (run operations register).total = 0) ∧
      (run operations register = run operations other ↔
        ∀ kind, (run operations register).get kind = (run operations other).get kind) ∧
      (∀ text reason, Histogram.parse text = .error reason →
        run (operations ++ [.parse register text]) = run operations) ∧
      ∀ document reason, Histogram.ofJson document = .error reason →
        run (operations ++ [.ofJson register document]) = run operations := by
  refine ⟨?positive, ?ascending, agrees_run operations register, ?sizes,
    Histogram.isEmpty_iff_total _, ?equal, ?text, ?document⟩
  case positive => exact (run operations register).positive
  case ascending =>
    exact (run operations register).sorted.imp fun hlt => Utf8.encode_lt_encode hlt
  case sizes =>
    exact ⟨_, Histogram.mem_kinds_iff _, Histogram.size_eq_card _, Histogram.total_eq_sum _⟩
  case equal => exact ⟨fun heq kind => by rw [heq], Histogram.ext_get⟩
  case text =>
    intro text reason hread
    refine run_append_of_fails ?_
    rw [Operation.result?, hread]
    rfl
  case document =>
    intro document reason hread
    refine run_append_of_fails ?_
    rw [Operation.result?, hread]
    rfl

end Registers
end SyntaxCensus
