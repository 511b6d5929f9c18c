import SyntaxCensus.Histogram.Counting

/-!
# Occurrences of a kind in a tree

How often a kind occurs in a syntax tree can be said without a list of pending
nodes: an object counts if its marker names the kind, and every value counts
what its parts count.  Counting a tree adds exactly these numbers.

Main definitions:

- `Json.Names`: a marker value names a kind, by the form of the value.
- `Json.occurrences`: how many objects in a value a kind is named by.

Main results:

- `Histogram.get_countPending`: what is counted already and what is pending
  add up to the same number at every step.
- `Histogram.get_ofTree`: the histogram of a tree has its occurrences.
- `Histogram.get_countTree`: counting a tree adds its occurrences.
-/

namespace SyntaxCensus

/-! ## Zero among the doubles -/

namespace Double

/-- A double is zero exactly if it is one of the two zeros. -/
theorem isZero_iff (x : Double) : x.isZero = true ↔ x = zero ∨ x = zero.neg := by
  have hbits : x.bits.toNat < 18446744073709551616 := x.bits.toNat_lt
  have hzero : x = zero ↔ x.bits.toNat = 0 := by
    constructor
    · intro h
      rw [h]
      rfl
    · intro h
      exact congrArg Double.mk (UInt64.toNat_inj.mp h)
  have hneg : x = zero.neg ↔ x.bits.toNat = signWeight := by
    constructor
    · intro h
      rw [h]
      rfl
    · intro h
      exact congrArg Double.mk (UInt64.toNat_inj.mp h)
  rw [hzero, hneg]
  unfold isZero magnitude signWeight
  rw [decide_eq_true_eq]
  omega

end Double

/-! ## Kinds and the objects they are named by -/

namespace Json

/-- A marker value names a kind: a text that is not empty names itself, a
number other than zero names its printed form, and `true` names `true`. -/
inductive Names : Json → String → Prop
  | string {kind : String} (nonempty : kind ≠ "") : Names (.string kind) kind
  | whole {value : Int} (nonzero : value ≠ 0) :
      Names (.number (.whole value)) (toString value)
  | double {value : Double} (positive : value ≠ .zero) (negative : value ≠ .neg .zero) :
      Names (.number (.double value)) value.text
  | true : Names (.bool true) "true"

/-- The label of a marker value is the kind that it names. -/
theorem label?_eq_some_iff (value : Json) (kind : String) :
    value.label? = some kind ↔ value.Names kind := by
  constructor
  · intro h
    cases value with
    | null | array _ | object _ => simp [label?] at h
    | bool value =>
        cases value with
        | false => simp [label?] at h
        | true =>
            simp only [label?, Option.some.injEq] at h
            exact h ▸ .true
    | string text =>
        by_cases hempty : text = ""
        · simp [label?, hempty] at h
        · simp only [label?, String.isEmpty_iff, hempty, if_false, Option.some.injEq] at h
          exact h ▸ .string hempty
    | number n =>
        cases n with
        | whole value =>
            by_cases hzero : value = 0
            · simp [label?, Number.isZero, hzero] at h
            · simp only [label?, Number.isZero, hzero, decide_false, Bool.false_eq_true, if_false,
                Option.some.injEq] at h
              exact h ▸ .whole hzero
        | double value =>
            by_cases hzero : value.isZero = true
            · simp [label?, Number.isZero, hzero] at h
            · simp only [label?, Number.isZero, hzero, Bool.false_eq_true, if_false,
                Option.some.injEq] at h
              rw [Double.isZero_iff, not_or] at hzero
              exact h ▸ .double hzero.1 hzero.2
  · intro h
    cases h with
    | string nonempty => simp [label?, nonempty]
    | whole nonzero => simp [label?, Number.isZero, Number.text, nonzero]
    | double positive negative =>
        have hzero : ¬ Double.isZero _ = true :=
          fun h => ((Double.isZero_iff _).mp h).elim positive negative
        simp [label?, Number.isZero, Number.text, hzero]
    | true => rfl

/-- A value is an object whose marker names a kind. -/
def IsNode (marker kind : String) (value : Json) : Prop :=
  ∃ label, value.member? marker = some label ∧ label.Names kind

/-- The kind of a value is the one that its marker names. -/
theorem kind?_eq_some_iff (marker kind : String) (value : Json) :
    value.kind? marker = some kind ↔ value.IsNode marker kind := by
  simp only [kind?, IsNode, Option.bind_eq_some_iff, label?_eq_some_iff]

instance (marker kind : String) (value : Json) : Decidable (value.IsNode marker kind) :=
  decidable_of_iff _ (kind?_eq_some_iff marker kind value)

mutual

/-- How many objects in a value, itself and those inside a marker included,
have a marker that names a kind. -/
def occurrences (marker kind : String) : Json → Nat
  | .null | .bool _ | .number _ | .string _ => 0
  | .array items => occurrencesItems marker kind items
  | .object members =>
      (if IsNode marker kind (.object members) then 1 else 0) +
        occurrencesMembers marker kind members

/-- The occurrences in all items. -/
def occurrencesItems (marker kind : String) : List Json → Nat
  | [] => 0
  | item :: rest => item.occurrences marker kind + occurrencesItems marker kind rest

/-- The occurrences in all member values. -/
def occurrencesMembers (marker kind : String) : List (String × Json) → Nat
  | [] => 0
  | (_, value) :: rest => value.occurrences marker kind + occurrencesMembers marker kind rest

end

variable (marker kind : String)

/-- What members hold is what their values hold, whatever the keys. -/
theorem occurrencesMembers_eq (members : List (String × Json)) :
    occurrencesMembers marker kind members =
      occurrencesItems marker kind (members.map Prod.snd) := by
  induction members with
  | nil => rfl
  | cons member rest ih => simp [occurrencesMembers, occurrencesItems, ih]

/-- A value counts itself, if it is a node, and what its children count. -/
theorem occurrences_eq (value : Json) :
    value.occurrences marker kind =
      (if value.kind? marker = some kind then 1 else 0) +
        occurrencesItems marker kind value.children := by
  cases value with
  | null | bool _ | number _ | string _ =>
      simp [occurrences, children, occurrencesItems, kind?, member?]
  | array items => simp [occurrences, children, kind?, member?]
  | object members =>
      simp only [occurrences, children, occurrencesMembers_eq, kind?_eq_some_iff]

theorem occurrencesItems_append (a b : List Json) :
    occurrencesItems marker kind (a ++ b) =
      occurrencesItems marker kind a + occurrencesItems marker kind b := by
  induction a with
  | nil => simp [occurrencesItems]
  | cons item rest ih => simp [occurrencesItems, ih, Nat.add_assoc]

/-- The order of the items is of no consequence. -/
theorem occurrencesItems_perm {a b : List Json} (h : a.Perm b) :
    occurrencesItems marker kind a = occurrencesItems marker kind b := by
  induction h with
  | nil => rfl
  | cons item _ ih => simp [occurrencesItems, ih]
  | swap first second rest =>
      simp only [occurrencesItems]
      omega
  | trans _ _ ih₁ ih₂ => exact ih₁.trans ih₂

end Json

/-! ## Counting adds the occurrences -/

namespace Histogram

variable (marker kind : String)

/-- A node that has a label counts for its kind, and for no other one. -/
theorem get_recordIfSome (h : Histogram) (label : Option String) :
    (h.recordIfSome label).get kind = h.get kind + if label = some kind then 1 else 0 := by
  cases label with
  | none => simp [recordIfSome]
  | some other => simp [recordIfSome, record_eq_add, get_add]

/-- Visiting a node moves it from what is pending to what is counted: the
counts and the occurrences that are still pending keep their sum. -/
theorem get_recordValue_push (h : Histogram) (value : Json) (rest : List Json) :
    (h.recordValue marker value).get kind +
        Json.occurrencesItems marker kind (Json.View.self.push value rest) =
      h.get kind + Json.occurrencesItems marker kind (value :: rest) := by
  rw [recordValue, get_recordIfSome, Json.View.push, Json.occurrencesItems_append,
    Json.occurrencesItems_perm marker kind (List.reverse_perm _)]
  simp only [Json.View.self, Json.occurrencesItems, Json.occurrences_eq marker kind value]
  omega

/-- Counting pending trees adds the occurrences in all of them. -/
theorem get_countPending (h : Histogram) (pending : List Json) :
    (countPending marker h pending).get kind =
      h.get kind + Json.occurrencesItems marker kind pending := by
  rw [countPending]
  fun_induction Json.View.visit Json.View.self (recordValue marker) h pending with
  | case1 h => simp [Json.occurrencesItems]
  | case2 h value rest ih => rw [ih, get_recordValue_push]

/-- Counting a single pending tree adds its occurrences. -/
theorem get_countPending_singleton (h : Histogram) (tree : Json) :
    (countPending marker h [tree]).get kind = h.get kind + tree.occurrences marker kind := by
  rw [get_countPending, Json.occurrencesItems, Json.occurrencesItems, Nat.add_zero]

/-- The histogram of a tree has its occurrences. -/
theorem get_ofTree (tree : Json) :
    (ofTree marker tree).get kind = tree.occurrences marker kind := by
  rw [ofTree, countTree, get_countPending_singleton]
  exact Nat.zero_add _

/-- Counting a tree adds, for every kind, the number of objects anywhere in
the tree whose marker names it. -/
theorem get_countTree (h : Histogram) (tree : Json) :
    (h.countTree marker tree).get kind = h.get kind + tree.occurrences marker kind := by
  rw [countTree, get_countPending]
  simp [Json.occurrencesItems]

end Histogram
end SyntaxCensus
