import SyntaxCensus.Proofs.Json.Quotation
import SyntaxCensus.Proofs.Json.ReadBack

/-!
# How deep containers are nested

The containers that are open at a place of a document can be counted by looking
at its octets alone.  A reader with a bound on open containers reads what the one
without a bound does, as long as there are not more of them, and stops at the
first one that is too many.

Main definitions:

- `Quotation.deepest`: the most containers that are open at one place.
- `Json.nesting`: how many containers octets nest in one another.

Main results:

- `Reading.run_of_bounded`, `Reading.bounded_of_run`: runs with a bound and
  without one.
- `Json.nesting_le_of_parseFile`, `Json.parseFile_of_read`: how deep files are
  nested.
- `Json.height_le_nesting`: how deep the values of documents are nested.
-/

namespace SyntaxCensus
namespace Quotation

/-! ## Counting open containers -/

/-- How many containers are open after an octet. -/
def openedAfter (place : Quotation) (opened : Nat) (octet : UInt8) : Nat :=
  if place = .outside then
    if Octet.isOpening octet then opened + 1
    else if Octet.isClosing octet then opened - 1
    else opened
  else opened

/-- The most containers that are open at one place of octets, by how many are
open before them. -/
def deepest (place : Quotation) (opened : Nat) : List UInt8 → Nat
  | [] => opened
  | octet :: rest => max opened (deepest (place.after octet) (place.openedAfter opened octet) rest)

/-- The deepest level is not above the one that is open. -/
theorem le_deepest (place : Quotation) (opened : Nat) (octets : List UInt8) :
    opened ≤ deepest place opened octets := by
  cases octets with
  | nil => exact Nat.le_refl opened
  | cons octet rest => exact Nat.le_max_left _ _

/-- Where no container is opened or closed, the most open containers are those
of the rest. -/
theorem Level.deepest_eq {first last : Quotation} {input rest : List UInt8}
    (h : Level first input last rest) (opened : Nat) :
    deepest first opened input = deepest last opened rest := by
  induction h with
  | here place input => rfl
  | @octet place last octet input rest enclosed _ ih =>
      have hsame : place.openedAfter opened octet = opened := by
        unfold openedAfter
        split
        · rename_i houtside
          have hmark := (enclosed houtside).2
          rw [Octet.isContainerMark, Bool.or_eq_false_iff] at hmark
          simp [hmark.1, hmark.2]
        · rfl
      rw [deepest, hsame, ih]
      exact Nat.max_eq_right (le_deepest last opened rest)

/-- After an octet that opens a container one more is open. -/
theorem deepest_opening {octet : UInt8} (h : Octet.isOpening octet = true) (opened : Nat)
    (rest : List UInt8) :
    deepest .outside opened (octet :: rest) = deepest .outside (opened + 1) rest := by
  have hplace : Quotation.outside.after octet = .outside := by
    simp only [Octet.isOpening, Bool.or_eq_true, beq_iff_eq] at h
    rcases h with rfl | rfl <;> decide
  rw [deepest, openedAfter, if_pos rfl, if_pos h, hplace]
  exact Nat.max_eq_right (Nat.le_trans (Nat.le_succ opened) (le_deepest _ _ _))

/-- After an octet that closes a container one less is open. -/
theorem deepest_closing {octet : UInt8} (h : Octet.isClosing octet = true) (opened : Nat)
    (rest : List UInt8) :
    deepest .outside (opened + 1) (octet :: rest) =
      max (opened + 1) (deepest .outside opened rest) := by
  have hplace : Quotation.outside.after octet = .outside ∧ Octet.isOpening octet = false := by
    simp only [Octet.isClosing, Bool.or_eq_true, beq_iff_eq] at h
    rcases h with rfl | rfl <;> decide
  rw [deepest, openedAfter, if_pos rfl, hplace.2, if_neg Bool.false_ne_true, if_pos h, hplace.1,
    Nat.add_sub_cancel]

end Quotation

open Quotation (Level)

namespace Reading

/-! ## Steps -/

/-- How many containers are open. -/
def opened : Reading → Nat
  | .awaiting stack _ => stack.length
  | .holding stack _ _ => stack.length

/-- The most containers that are open at one place of what is still to be
read. -/
def deepest (reading : Reading) : Nat :=
  Quotation.deepest .outside reading.opened reading.input

section Step

variable {stack : List Frame} {input : List UInt8} {next : Reading}

/-- Beginning a value opens at most one container more. -/
theorem Begins.opened_le (h : Begins stack input next) : next.opened ≤ stack.length + 1 := by
  cases h with
  | scalar | empty => exact Nat.le_succ _
  | entered => exact Nat.le_refl _

/-- Going on after a value opens none. -/
theorem GoesOn.opened_le (h : GoesOn stack input next) : next.opened ≤ stack.length + 1 := by
  cases h with
  | more => exact Nat.le_refl _
  | closed => exact Nat.le_succ _

/-- If there is room for one container more, beginning a value keeps to a bound
as far as what follows does. -/
theorem Begins.deepest_le_iff (h : Begins stack input next) {bound : Nat}
    (hroom : stack.length < bound) :
    (awaiting stack input).deepest ≤ bound ↔ next.deepest ≤ bound := by
  have hdeepest : (awaiting stack input).deepest = next.deepest ∨
      (awaiting stack input).deepest = max (stack.length + 1) next.deepest := by
    cases h with
    | scalar level => exact .inl (level.deepest_eq _)
    | empty opens closes before level =>
        refine .inr ((before.deepest_eq _).trans ?_)
        rw [Quotation.deepest_opening opens, level.deepest_eq, Quotation.deepest_closing closes]
        rfl
    | entered opens before level =>
        refine .inl ((before.deepest_eq _).trans ?_)
        rw [Quotation.deepest_opening opens, level.deepest_eq]
        rfl
  omega

/-- So does going on after a value in a container that keeps to it. -/
theorem GoesOn.deepest_le_iff (h : GoesOn stack input next) {bound : Nat}
    (hroom : stack.length < bound) (frame : Frame) (value : Json) :
    (holding (frame :: stack) value input).deepest ≤ bound ↔ next.deepest ≤ bound := by
  have hdeepest : (holding (frame :: stack) value input).deepest = next.deepest ∨
      (holding (frame :: stack) value input).deepest = max (stack.length + 1) next.deepest := by
    cases h with
    | more level => exact .inl (level.deepest_eq _)
    | closed closes level =>
        exact .inr ((level.deepest_eq _).trans (Quotation.deepest_closing closes _ _))
  omega

end Step

/-- Where there is room for a container, a bound is of no consequence. -/
theorem start_of_room {bound : Nat} {stack : List Frame} (h : stack.length < bound)
    (input : List UInt8) : start (some bound) stack input = start none stack input := by
  have hroom : isFull (some bound) stack = isFull none stack := by
    simp [isFull, h]
  unfold start
  rw [hroom]

/-- A scalar is read with any bound. -/
theorem start_of_scalar {stack : List Frame} {input rest : List UInt8} {octet : UInt8}
    (hskip : skipBlanks input = octet :: rest) (hbracket : octet ≠ Octet.openBracket)
    (hbrace : octet ≠ Octet.openBrace) (limit : Option Nat) :
    start limit stack input = (scanScalar (octet :: rest)).map fun (value, after) =>
      .holding stack value after := by
  simp only [start, hskip, hbracket, hbrace, if_false]
  cases scanScalar (octet :: rest) <;> rfl

/-- A container is not opened where there is no room. -/
theorem start_of_full {stack : List Frame} {input rest : List UInt8} {octet : UInt8}
    {bound : Nat} (hskip : skipBlanks input = octet :: rest) (hfull : bound ≤ stack.length)
    (hopens : octet = Octet.openBracket ∨ octet = Octet.openBrace) :
    start (some bound) stack input = .error (.next .nestedTooDeep (octet :: rest)) := by
  rcases hopens with rfl | rfl <;> simp [start, hskip, isFull, hfull]

/-- A step with a bound is the step without it, or is stopped before a container
that is one too many. -/
theorem start_bounded (bound : Nat) (stack : List Frame) (input : List UInt8) :
    start (some bound) stack input = start none stack input ∧
        (stack.length < bound ∨ ∀ next, start none stack input = .ok next →
          next.opened = stack.length ∧ (awaiting stack input).deepest = next.deepest) ∨
      bound < (awaiting stack input).deepest ∧
        ∃ rest, start (some bound) stack input = .error (.next .nestedTooDeep rest) := by
  rcases Nat.lt_or_ge stack.length bound with hroom | hfull
  · exact .inl ⟨start_of_room hroom input, .inl hroom⟩
  · have hblanks := level_skipBlanks input
    cases hskip : skipBlanks input with
    | nil => exact .inl ⟨by simp [start, hskip], .inr fun next h => by simp [start, hskip] at h⟩
    | cons octet rest =>
        rw [hskip] at hblanks
        by_cases hopens : octet = Octet.openBracket ∨ octet = Octet.openBrace
        · refine .inr ⟨?_, octet :: rest, start_of_full hskip hfull hopens⟩
          have hmark : Octet.isOpening octet = true := by
            rcases hopens with rfl | rfl <;> decide
          calc bound < stack.length + 1 := Nat.lt_succ_of_le hfull
            _ ≤ Quotation.deepest .outside (stack.length + 1) rest := Quotation.le_deepest _ _ _
            _ = (awaiting stack input).deepest :=
              ((hblanks.deepest_eq _).trans (Quotation.deepest_opening hmark _ _)).symm
        · rw [not_or] at hopens
          have hstart := @start_of_scalar stack _ _ _ hskip hopens.1 hopens.2
          refine .inl ⟨(hstart _).trans (hstart _).symm, .inr fun next h => ?_⟩
          rw [hstart] at h
          cases hscalar : scanScalar (octet :: rest) with
          | error stop =>
              rw [hscalar] at h
              cases h
          | ok found =>
              rw [hscalar] at h
              obtain rfl := Except.ok.inj h
              exact ⟨rfl, (hblanks.trans (level_scanScalar hscalar)).deepest_eq _⟩

/-! ## Runs -/

/-- A value that is read with a bound is read without it. -/
theorem run_of_bounded {bound : Nat} {reading : Reading} {value : Json} {rest : List UInt8}
    (h : run (some bound) reading = .ok (value, rest)) : run none reading = .ok (value, rest) := by
  fun_induction run (some bound) reading with
  | case1 => cases h
  | case2 stack input next hstart ih =>
      rcases start_bounded bound stack input with ⟨hsame, -⟩ | ⟨-, rest, herror⟩
      · rw [run_awaiting (hsame.symm.trans hstart), ih h]
      · rw [hstart] at herror
        cases herror
  | case3 => rw [run]; exact h
  | case4 => cases h
  | case5 frame stack value input next hresume ih => rw [run_holding hresume, ih h]

/-- A value that is read without a bound is read with one if nowhere more
containers are open, and else the bound stops the run. -/
theorem bounded_of_run {bound : Nat} {reading : Reading} {value : Json} {rest : List UInt8}
    (h : run none reading = .ok (value, rest)) (hopened : reading.opened ≤ bound)
    (hrest : Quotation.deepest .outside 0 rest ≤ bound) :
    reading.deepest ≤ bound ∧ run (some bound) reading = .ok (value, rest) ∨
      bound < reading.deepest ∧
        ∃ rest, run (some bound) reading = .error (.next .nestedTooDeep rest) := by
  fun_induction run none reading with
  | case1 => cases h
  | case2 stack input next hstart ih =>
      rcases start_bounded bound stack input with ⟨hsame, hscalar⟩ | ⟨hdeep, more, herror⟩
      · rw [run_awaiting (hsame.trans hstart)]
        obtain ⟨hnext, hdeepest⟩ : next.opened ≤ bound ∧
            ((awaiting stack input).deepest ≤ bound ↔ next.deepest ≤ bound) := by
          rcases hscalar with hroom | hscalar
          · have hbegins := begins_of_start hstart
            exact ⟨Nat.le_trans hbegins.opened_le hroom, hbegins.deepest_le_iff hroom⟩
          · obtain ⟨hsame, hdeepest⟩ := hscalar next hstart
            rw [hsame, hdeepest]
            exact ⟨hopened, Iff.rfl⟩
        rw [← Nat.not_le, hdeepest, Nat.not_le]
        exact ih h hnext
      · exact .inr ⟨hdeep, more, run_awaiting_error herror⟩
  | case3 value input =>
      obtain ⟨rfl, rfl⟩ := Prod.mk.inj (Except.ok.inj h)
      exact .inl ⟨hrest, by rw [run]⟩
  | case4 => cases h
  | case5 frame stack value input next hresume ih =>
      have hgoesOn := goesOn_of_resume hresume
      rw [run_holding hresume, ← Nat.not_le, hgoesOn.deepest_le_iff hopened, Nat.not_le]
      exact ih h (Nat.le_trans hgoesOn.opened_le hopened)

end Reading

/-! ## Documents -/

namespace Json

/-- How many containers octets nest in one another. -/
def nesting (octets : List UInt8) : Nat :=
  Quotation.deepest .outside 0 octets

/-- What is read with a bound is read without one. -/
theorem read_of_bounded {bound : Nat} {octets : List UInt8} {value : Json}
    (h : read (some bound) octets = .ok value) : read none octets = .ok value := by
  obtain ⟨rest, hrun, hskip⟩ := read_eq_ok_iff.mp h
  exact read_eq_ok_iff.mpr ⟨rest, Reading.run_of_bounded hrun, hskip⟩

/-- A document is read with a bound if it nests no more containers, and else the
first one that is too many is the fault. -/
theorem read_bounded {octets : List UInt8} {value : Json} (h : read none octets = .ok value)
    (bound : Nat) :
    nesting octets ≤ bound ∧ read (some bound) octets = .ok value ∨
      bound < nesting octets ∧
        ∃ rest, read (some bound) octets = .error (.next .nestedTooDeep rest) := by
  obtain ⟨rest, hrun, hskip⟩ := read_eq_ok_iff.mp h
  have hrest : Quotation.deepest .outside 0 rest = 0 := by
    have hblanks := level_skipBlanks rest
    rw [hskip] at hblanks
    exact hblanks.deepest_eq 0
  have hbounded := Reading.bounded_of_run hrun (Nat.zero_le bound) (by omega)
  rcases hbounded with ⟨hle, hrun'⟩ | ⟨hlt, more, hstop⟩
  · exact .inl ⟨hle, read_eq_ok_iff.mpr ⟨rest, hrun', hskip⟩⟩
  · exact .inr ⟨hlt, more, by rw [read, hstop]⟩

/-- Files nest no more containers than there is room for. -/
theorem nesting_le_of_parseFile {octets : List UInt8} {value : Json}
    (h : parseFile octets = .ok value) : nesting octets ≤ fileDepth := by
  rw [parseFile_eq_ok_iff] at h
  rcases read_bounded (read_of_bounded h) fileDepth with ⟨hle, -⟩ | ⟨-, rest, hstop⟩
  · exact hle
  · rw [h] at hstop
    cases hstop

/-- A document in a file is read if it nests no more containers than there is room
for, and else it is nested too deep. -/
theorem parseFile_of_read {octets : List UInt8} {value : Json} (h : read none octets = .ok value) :
    nesting octets ≤ fileDepth ∧ parseFile octets = .ok value ∨
      fileDepth < nesting octets ∧
        ∃ reason, parseFile octets = .error reason ∧ reason.fault = .nestedTooDeep := by
  unfold parseFile
  rcases read_bounded h fileDepth with ⟨hle, hfile⟩ | ⟨hlt, rest, hfile⟩
  · exact .inl ⟨hle, by rw [hfile]; rfl⟩
  · exact .inr ⟨hlt, _, by rw [hfile]; rfl, rfl⟩

end Json

/-! ## Heights -/

namespace Json

/-- Items are as high as the highest one. -/
theorem heightItems_le_iff {items : List Json} {bound : Nat} :
    heightItems items ≤ bound ↔ ∀ item ∈ items, item.height ≤ bound := by
  induction items with
  | nil => simp [heightItems]
  | cons item rest ih => simp only [heightItems, Nat.max_le, ih, List.forall_mem_cons]

theorem heightMembers_le_iff {members : List (String × Json)} {bound : Nat} :
    heightMembers members ≤ bound ↔ ∀ member ∈ members, member.2.height ≤ bound := by
  induction members with
  | nil => simp [heightMembers]
  | cons member rest ih => simp only [heightMembers, Nat.max_le, ih, List.forall_mem_cons]

/-- A scalar contains no containers. -/
theorem height_scanScalar {input rest : List UInt8} {value : Json}
    (h : scanScalar input = .ok (value, rest)) : value.height = 0 := by
  unfold scanScalar at h
  split at h
  · cases h
  · repeat' split at h
    all_goals cases h <;> simp only [height]

end Json

/-- With so many containers open, the values in one of them keep to a bound. -/
def Frame.Keeps (bound opened : Nat) : Frame → Prop
  | .array done => ∀ item ∈ done, opened + item.height ≤ bound
  | .object done _ => ∀ member ∈ done, opened + member.2.height ≤ bound

/-- Open containers and the values in them keep to a bound. -/
def Frame.AllKeep (bound : Nat) : List Frame → Prop
  | [] => True
  | frame :: stack =>
      stack.length + 1 ≤ bound ∧ frame.Keeps bound (stack.length + 1) ∧ AllKeep bound stack

/-- There are no more open containers than the bound. -/
theorem Frame.AllKeep.length_le {bound : Nat} {stack : List Frame} (h : AllKeep bound stack) :
    stack.length ≤ bound := by
  cases stack with
  | nil => exact Nat.zero_le bound
  | cons frame stack => exact h.1

namespace Reading

/-- The containers of a configuration keep to a bound. -/
def Keeps (bound : Nat) : Reading → Prop
  | .awaiting stack _ => Frame.AllKeep bound stack
  | .holding stack value _ => Frame.AllKeep bound stack ∧ stack.length + value.height ≤ bound

/-- Beginning a value within a bound keeps to it. -/
theorem keeps_start {bound : Nat} {stack : List Frame} {input : List UInt8} {next : Reading}
    (hstack : Frame.AllKeep bound stack) (h : start (some bound) stack input = .ok next) :
    next.Keeps bound := by
  unfold start at h
  split at h
  · cases h
  · split at h
    · split at h
      · cases h
      · rename_i hroom
        simp only [isFull, decide_eq_true_eq, Nat.not_le] at hroom
        split at h
        · cases h
        · obtain rfl := Except.ok.inj h
          exact ⟨hroom, List.forall_mem_nil _, hstack⟩
        · obtain rfl := Except.ok.inj h
          exact ⟨hstack, hroom⟩
    · split at h
      · split at h
        · cases h
        · rename_i hroom
          simp only [isFull, decide_eq_true_eq, Nat.not_le] at hroom
          split at h
          · cases h
          · obtain rfl := Except.ok.inj h
            exact ⟨hroom, List.forall_mem_nil _, hstack⟩
          · obtain rfl := Except.ok.inj h
            exact ⟨hstack, hroom⟩
      · split at h
        · cases h
        · rename_i hscalar
          obtain rfl := Except.ok.inj h
          refine ⟨hstack, ?_⟩
          rw [Json.height_scanScalar hscalar]
          exact hstack.length_le

/-- So does putting a value that keeps to it into its container. -/
theorem keeps_resume {bound : Nat} {frame : Frame} {stack : List Frame} {value : Json}
    {input : List UInt8} {next : Reading} (hstack : Frame.AllKeep bound (frame :: stack))
    (hvalue : stack.length + 1 + value.height ≤ bound)
    (h : resume frame stack value input = .ok next) : next.Keeps bound := by
  obtain ⟨hroom, hframe, hrest⟩ := hstack
  unfold resume at h
  split at h
  · rename_i done
    have hitems : ∀ item ∈ value :: done, stack.length + 1 + item.height ≤ bound :=
      List.forall_mem_cons.mpr ⟨hvalue, hframe⟩
    split at h
    · cases h
    · obtain rfl := Except.ok.inj h
      exact ⟨hroom, hitems, hrest⟩
    · obtain rfl := Except.ok.inj h
      have hheight : Json.heightItems (value :: done).reverse ≤ bound - (stack.length + 1) := by
        refine Json.heightItems_le_iff.mpr fun item hitem => ?_
        have := hitems item (List.mem_reverse.mp hitem)
        omega
      refine ⟨hrest, ?_⟩
      rw [Json.height]
      omega
  · rename_i done key
    have hmembers : ∀ member ∈ (key, value) :: done, stack.length + 1 + member.2.height ≤ bound :=
      List.forall_mem_cons.mpr ⟨hvalue, hframe⟩
    split at h
    · cases h
    · obtain rfl := Except.ok.inj h
      exact ⟨hroom, hmembers, hrest⟩
    · obtain rfl := Except.ok.inj h
      have hheight : Json.heightMembers (Keyed.ofBindings ((key, value) :: done).reverse) ≤
          bound - (stack.length + 1) := by
        refine Json.heightMembers_le_iff.mpr fun member hmember => ?_
        have := hmembers member (List.mem_reverse.mp (Keyed.mem_of_mem_ofBindings hmember))
        omega
      refine ⟨hrest, ?_⟩
      rw [Json.ofBindings, Json.height]
      omega

/-- A value that is read within a bound is no higher. -/
theorem keeps_run {bound : Nat} {reading : Reading} {value : Json} {rest : List UInt8}
    (hreading : reading.Keeps bound) (h : run (some bound) reading = .ok (value, rest)) :
    value.height ≤ bound := by
  fun_induction run (some bound) reading with
  | case1 => cases h
  | case2 stack input next hstart ih => exact ih (keeps_start hreading hstart) h
  | case3 =>
      obtain ⟨rfl, -⟩ := Prod.mk.inj (Except.ok.inj h)
      have := hreading.2
      rwa [List.length_nil, Nat.zero_add] at this
  | case4 => cases h
  | case5 frame stack value input next hresume ih =>
      exact ih (keeps_resume hreading.1 hreading.2 hresume) h

end Reading

namespace Json

/-- The containers of a document's value are nested no deeper than those of the
document; a member that a later one replaces may have been deeper. -/
theorem height_le_nesting {octets : List UInt8} {value : Json}
    (h : read none octets = .ok value) : value.height ≤ nesting octets := by
  rcases read_bounded h (nesting octets) with ⟨-, hread⟩ | ⟨hlt, -⟩
  · obtain ⟨_, hrun, -⟩ := read_eq_ok_iff.mp hread
    have hkeeps : (Reading.awaiting [] octets).Keeps (nesting octets) := True.intro
    exact Reading.keeps_run hkeeps hrun
  · exact absurd hlt (Nat.lt_irrefl _)

end Json
end SyntaxCensus
