import Mathlib.Logic.Relation
import SyntaxCensus.Proofs.Bindings
import SyntaxCensus.Proofs.Histogram.Counts
import SyntaxCensus.Proofs.Histogram.Occurrences

/-!
# What a histogram does not depend on

A tree may be varied in many ways without any node of it gaining or losing its
kind: items may change places, keys other than the marker may be renamed, and
scalars that name no kind may be replaced.  Renaming keys moves the members of an
object, so the nodes of the two trees are visited in different orders; but every
kind occurs in both equally often, and the histograms are the same.

Main definitions:

- `Json.IsScalar`, `Json.IsFalsy`: values without parts, and those among them that
  name no kind.
- `Json.Varies`: one change, anywhere in a tree.

Main results:

- `Json.Varies.kept`: a change keeps the occurrences of every kind.
- `Histogram.ofTree_eq_of_varies`: any number of changes keep the histogram.
-/

namespace SyntaxCensus
namespace Json

/-! ## Values that may be replaced -/

/-- A value that is no container. -/
def IsScalar : Json → Prop
  | .array _ | .object _ => False
  | _ => True

/-- A scalar that names no kind: `null`, `false`, zero with any sign, or the empty
text. -/
inductive IsFalsy : Json → Prop
  | null : IsFalsy .null
  | false : IsFalsy (.bool false)
  | whole : IsFalsy (.number (.whole 0))
  | double : IsFalsy (.number (.double .zero))
  | negative : IsFalsy (.number (.double (.neg .zero)))
  | empty : IsFalsy (.string "")

/-- A value without parts that names no kind either: a falsy scalar, or an empty
container. -/
def IsBare (value : Json) : Prop :=
  value.IsFalsy ∨ value = .array [] ∨ value = .object []

section Replaced

variable {value : Json} (marker kind : String)

/-- A scalar has no node of any kind. -/
theorem occurrences_of_isScalar (h : value.IsScalar) : value.occurrences marker kind = 0 := by
  cases value with
  | null | bool _ | number _ | string _ => rw [occurrences]
  | array _ | object _ => exact h.elim

theorem IsFalsy.isScalar (h : value.IsFalsy) : value.IsScalar := by
  cases h <;> exact trivial

theorem IsFalsy.label?_eq (h : value.IsFalsy) : value.label? = none := by
  cases h <;> rfl

/-- Nor has a value without members and items. -/
theorem IsBare.occurrences_eq (h : value.IsBare) : value.occurrences marker kind = 0 := by
  rcases h with hfalsy | rfl | rfl
  · exact occurrences_of_isScalar marker kind hfalsy.isScalar
  · rw [occurrences, occurrencesItems]
  · simp [occurrences_eq, kind?, member?, Keyed.lookup, children, occurrencesItems]

theorem IsBare.label?_eq (h : value.IsBare) : value.label? = none := by
  rcases h with hfalsy | rfl | rfl
  · exact hfalsy.label?_eq
  · rfl
  · rfl

end Replaced

/-! ## Changes -/

/-- Whether a value is bound to the marker of an object or stands anywhere else. -/
inductive Site where
  | marker
  | other
  deriving DecidableEq

/-- The site of the value of a member. -/
def Site.ofKey (marker key : String) : Site :=
  if key = marker then .marker else .other

/-- The members of an object with other keys than before, in the order of these.
The marker stays as it is, and no other key becomes the marker. -/
structure Renamed (marker : String) (members others : List (String × Json)) : Prop where
  sorted : Keyed.Sorted members
  sorted_others : Keyed.Sorted others
  exists_rename : ∃ rename : String → String,
    (∀ member ∈ members, rename member.1 = marker ↔ member.1 = marker) ∧
      others.Perm (members.map fun member => (rename member.1, member.2))

/-- One change of a value at a site: the items of an array change places, keys of
an object other than the marker are renamed, a scalar that is not bound to a marker
is replaced, a falsy scalar that is bound to a marker is replaced by a bare value,
or one of these changes is made inside. -/
inductive Varies (marker : String) : Site → Json → Json → Prop
  | reordered {site : Site} {items others : List Json} (perm : items.Perm others) :
      Varies marker site (.array items) (.array others)
  | renamed {site : Site} {members others : List (String × Json)}
      (keys : Renamed marker members others) :
      Varies marker site (.object members) (.object others)
  | replaced {value other : Json} (scalar : value.IsScalar) (scalar_other : other.IsScalar) :
      Varies marker .other value other
  | unnamed {value other : Json} (falsy : value.IsFalsy) (bare : other.IsBare) :
      Varies marker .marker value other
  | item {site : Site} {value other : Json} (before after : List Json)
      (inside : Varies marker .other value other) :
      Varies marker site (.array (before ++ value :: after)) (.array (before ++ other :: after))
  | member {site : Site} {value other : Json} (before : List (String × Json)) (key : String)
      (after : List (String × Json)) (inside : Varies marker (.ofKey marker key) value other) :
      Varies marker site (.object (before ++ (key, value) :: after))
        (.object (before ++ (key, other) :: after))

/-! ## What changes keep -/

section Kept

variable {marker : String}

/-- Renaming keys keeps what is bound to the marker. -/
theorem Renamed.lookup_eq {members others : List (String × Json)}
    (h : Renamed marker members others) :
    Keyed.lookup marker members = Keyed.lookup marker others := by
  obtain ⟨rename, hmarker, hperm⟩ := h.exists_rename
  have hmem : ∀ value, (marker, value) ∈ members ↔ (marker, value) ∈ others := by
    intro value
    rw [hperm.mem_iff, List.mem_map]
    constructor
    · intro hvalue
      exact ⟨_, hvalue, Prod.ext ((hmarker _ hvalue).mpr rfl) rfl⟩
    · rintro ⟨member, hmember, heq⟩
      obtain ⟨hkey, rfl⟩ := Prod.mk.inj heq
      have hsame : member.1 = marker := (hmarker member hmember).mp hkey
      exact hsame ▸ hmember
  refine Option.ext fun value => ?_
  constructor
  · intro hlookup
    exact Keyed.lookup_of_mem h.sorted_others ((hmem value).mp (Keyed.mem_of_lookup hlookup))
  · intro hlookup
    exact Keyed.lookup_of_mem h.sorted ((hmem value).mpr (Keyed.mem_of_lookup hlookup))

/-- Renaming keys keeps the values, perhaps in another order. -/
theorem Renamed.values_perm {members others : List (String × Json)}
    (h : Renamed marker members others) :
    (members.map Prod.snd).Perm (others.map Prod.snd) := by
  obtain ⟨rename, -, hperm⟩ := h.exists_rename
  have hvalues := hperm.map Prod.snd
  rw [List.map_map] at hvalues
  exact hvalues.symm

/-- The label under the marker is the same if a member with another key has another
value, or the member of the marker a value with the same label. -/
theorem label?_lookup_congr {key : String} {value other : Json}
    (h : key = marker → value.label? = other.label?) (before after : List (String × Json)) :
    (Keyed.lookup marker (before ++ (key, value) :: after)).bind label? =
      (Keyed.lookup marker (before ++ (key, other) :: after)).bind label? := by
  induction before with
  | nil =>
      by_cases hkey : key = marker
      · simp only [List.nil_append, Keyed.lookup, if_pos hkey, Option.bind_some, h hkey]
      · simp only [List.nil_append, Keyed.lookup, if_neg hkey]
  | cons first rest ih =>
      simp only [List.cons_append, Keyed.lookup]
      split
      · rfl
      · exact ih

/-- A change keeps the occurrences of every kind, and the label if the value is
bound to a marker. -/
theorem Varies.kept {site : Site} {value other : Json} (h : Varies marker site value other) :
    (∀ kind, value.occurrences marker kind = other.occurrences marker kind) ∧
      (site = .marker → value.label? = other.label?) := by
  induction h with
  | reordered perm =>
      refine ⟨fun kind => ?_, fun _ => rfl⟩
      rw [occurrences, occurrences, occurrencesItems_perm marker kind perm]
  | @renamed site members others keys =>
      refine ⟨fun kind => ?_, fun _ => rfl⟩
      have hkind : (Json.object members).kind? marker = (Json.object others).kind? marker :=
        congrArg (·.bind label?) keys.lookup_eq
      rw [occurrences_eq, occurrences_eq, hkind, children, children,
        occurrencesItems_perm marker kind keys.values_perm]
  | replaced scalar scalar_other =>
      refine ⟨fun kind => ?_, fun hsite => by cases hsite⟩
      rw [occurrences_of_isScalar marker kind scalar,
        occurrences_of_isScalar marker kind scalar_other]
  | unnamed falsy bare =>
      refine ⟨fun kind => ?_, fun _ => ?_⟩
      · rw [occurrences_of_isScalar marker kind falsy.isScalar, bare.occurrences_eq]
      · rw [falsy.label?_eq, bare.label?_eq]
  | item before after inside ih =>
      refine ⟨fun kind => ?_, fun _ => rfl⟩
      simp only [occurrences, occurrencesItems_append, occurrencesItems, ih.1 kind]
  | @member site value other before key after inside ih =>
      refine ⟨fun kind => ?_, fun _ => rfl⟩
      have hlabel : key = marker → value.label? = other.label? := fun hkey =>
        ih.2 (if_pos hkey)
      have hkind : (Json.object (before ++ (key, value) :: after)).kind? marker =
          (Json.object (before ++ (key, other) :: after)).kind? marker :=
        label?_lookup_congr hlabel before after
      rw [occurrences_eq, occurrences_eq, hkind]
      simp only [children, List.map_append, List.map_cons, occurrencesItems_append,
        occurrencesItems, ih.1 kind]

end Kept
end Json

/-! ## Histograms -/

/-- Trees that any number of changes, at any places, lead from one to the other have
the same histogram. -/
theorem Histogram.ofTree_eq_of_varies {marker : String} {tree other : Json}
    (h : Relation.EqvGen (Json.Varies marker .other) tree other) :
    ofTree marker tree = ofTree marker other := by
  induction h with
  | rel tree other change =>
      refine ext_get fun kind => ?_
      rw [get_ofTree, get_ofTree, change.kept.1 kind]
  | refl tree => rfl
  | symm tree other _ ih => exact ih.symm
  | trans tree middle other _ _ ih ih' => exact ih.trans ih'

/-! ### A tree whose nodes are visited in another order -/

/-- A node of the kind `A` with a scalar. -/
def Json.sizedNode (size : Json) : Json :=
  .object [("kind", .string "A"), ("size", size)]

/-- A node of the kind `B`. -/
def Json.plainNode : Json :=
  .object [("kind", .string "B")]

/-- An object whose kind is `null` with both nodes. -/
def Json.beforeChanges : Json :=
  .object [("items", .array [.plainNode, .sizedNode (.number (.whole 1))]), ("kind", .null)]

/-- The object with its nodes in the other order, another scalar in one of them, an
empty array for its kind, and its items under a key that comes last. -/
def Json.afterChanges : Json :=
  .object [("kind", .array []), ("nodes", .array [.sizedNode (.string "large"), .plainNode])]

/-- Members in another order and scalars in place of others: the counts stay. -/
theorem Histogram.ofTree_eq_of_varies_reordered :
    Relation.EqvGen (Json.Varies "kind" .other) .beforeChanges .afterChanges ∧
      ofTree "kind" .beforeChanges = ofTree "kind" .afterChanges ∧
      (ofTree "kind" .afterChanges).entries = [("A", 1), ("B", 1)] := by
  have hother : Json.Site.ofKey "kind" "size" = .other := by decide
  have hmarker : Json.Site.ofKey "kind" "kind" = .marker := by decide
  have horder : Json.Varies "kind" .other .beforeChanges _ :=
    .member [] "items" [("kind", .null)] (.reordered (.swap _ _ []))
  have hsize : Json.Varies "kind" (.ofKey "kind" "size") (.number (.whole 1)) (.string "large") :=
    hother ▸ .replaced trivial trivial
  have hscalar : Json.Varies "kind" .other _ _ :=
    .member [] "items" [("kind", .null)]
      (.item [] [.plainNode] (.member [("kind", .string "A")] "size" [] hsize))
  have hbare : Json.Varies "kind" (.ofKey "kind" "kind") .null (.array []) :=
    hmarker ▸ .unnamed .null (.inr (.inl rfl))
  have hkind : Json.Varies "kind" .other _ _ :=
    .member [("items", .array [.sizedNode (.string "large"), .plainNode])] "kind" [] hbare
  have hkeys : Json.Renamed "kind"
      [("items", .array [.sizedNode (.string "large"), .plainNode]), ("kind", .array [])]
      [("kind", .array []), ("nodes", .array [.sizedNode (.string "large"), .plainNode])] :=
    ⟨List.pairwise_pair.mpr (by decide), List.pairwise_pair.mpr (by decide),
      fun key => if key = "items" then "nodes" else key, by simp, .swap _ _ []⟩
  have hvaries : Relation.EqvGen (Json.Varies "kind" .other) .beforeChanges .afterChanges :=
    .trans _ _ _ (.rel _ _ horder) (.trans _ _ _ (.rel _ _ hscalar)
      (.trans _ _ _ (.rel _ _ hkind) (.rel _ _ (.renamed hkeys))))
  exact ⟨hvaries, ofTree_eq_of_varies hvaries, by decide +kernel⟩

end SyntaxCensus
