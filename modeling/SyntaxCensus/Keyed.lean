/-!
# Sorted bindings

A finite map from strings is kept as its list of bindings with the keys
strictly ascending.  Strings compare by code point, which is the order of
their UTF-8 bytes, so a map has exactly one such list and equal maps are equal
lists.  Objects of a document and histograms of node kinds both use it.

Main results:

- `Keyed.sorted_insertWith` and `Keyed.sorted_ofBindings`: every way of
  building a map keeps the keys strictly ascending.
- `Keyed.lookup_insertWith`: insertion changes the value of its own key only.
-/

namespace SyntaxCensus
namespace Keyed

variable {α : Type}

/-- The keys strictly ascend, so none occurs twice. -/
def Sorted (bindings : List (String × α)) : Prop :=
  bindings.Pairwise fun a b => a.1 < b.1

/-- The value bound to a key. -/
def lookup (key : String) : List (String × α) → Option α
  | [] => none
  | (k, v) :: rest => if k = key then some v else lookup key rest

/-- Bind a key: to `fresh` if it has no value, else to its updated value. -/
def insertWith (key : String) (fresh : α) (update : α → α) :
    List (String × α) → List (String × α)
  | [] => [(key, fresh)]
  | (k, v) :: rest =>
      if key < k then (key, fresh) :: (k, v) :: rest
      else if key = k then (k, update v) :: rest
      else (k, v) :: insertWith key fresh update rest

/-- Bind a key that has no value yet; a key that has one keeps it. -/
def insertNew (key : String) (value : α) (bindings : List (String × α)) :
    List (String × α) :=
  insertWith key value id bindings

/-- The map of a list of bindings in the order they were written: of several
bindings of one key the last one counts. -/
def ofBindings (bindings : List (String × α)) : List (String × α) :=
  bindings.foldr (fun binding rest => insertNew binding.1 binding.2 rest) []

/-! ## Order of the keys -/

theorem sorted_nil : Sorted ([] : List (String × α)) :=
  List.Pairwise.nil

theorem sorted_cons {binding : String × α} {rest : List (String × α)} :
    Sorted (binding :: rest) ↔ (∀ b ∈ rest, binding.1 < b.1) ∧ Sorted rest := by
  simp [Sorted]

/-- A binding after an insertion has the inserted key or was there before,
perhaps with another value. -/
theorem key_of_mem_insertWith {key : String} {fresh : α} {update : α → α}
    {bindings : List (String × α)} {b : String × α}
    (h : b ∈ insertWith key fresh update bindings) :
    b.1 = key ∨ ∃ c ∈ bindings, c.1 = b.1 := by
  induction bindings with
  | nil => simp_all [insertWith]
  | cons binding rest ih =>
      obtain ⟨k, v⟩ := binding
      simp only [insertWith] at h
      split at h
      · rcases List.mem_cons.mp h with h | h
        · exact Or.inl (by rw [h])
        · exact Or.inr ⟨b, h, rfl⟩
      · split at h
        · rename_i heq
          rcases List.mem_cons.mp h with h | h
          · exact Or.inl (by rw [h, heq])
          · exact Or.inr ⟨b, List.mem_cons_of_mem _ h, rfl⟩
        · rcases List.mem_cons.mp h with h | h
          · exact Or.inr ⟨(k, v), List.mem_cons_self, by rw [h]⟩
          · rcases ih h with h | ⟨c, hc, heq⟩
            · exact Or.inl h
            · exact Or.inr ⟨c, List.mem_cons_of_mem _ hc, heq⟩

/-- A key that is neither below nor equal to another is above it. -/
theorem lt_of_not_lt_of_ne {a b : String} (hlt : ¬ a < b) (hne : a ≠ b) : b < a :=
  String.not_le.mp fun hle => hne (String.le_antisymm hle (String.not_lt.mp hlt))

/-- Insertion keeps the keys strictly ascending. -/
theorem sorted_insertWith {key : String} {fresh : α} {update : α → α}
    {bindings : List (String × α)} (h : Sorted bindings) :
    Sorted (insertWith key fresh update bindings) := by
  induction bindings with
  | nil => simp [insertWith, Sorted]
  | cons binding rest ih =>
      obtain ⟨k, v⟩ := binding
      have hcons := sorted_cons.mp h
      simp only [insertWith]
      split
      · rename_i hlt
        refine sorted_cons.mpr ⟨fun b hb => ?_, h⟩
        rcases List.mem_cons.mp hb with hb | hb
        · rw [hb]; exact hlt
        · exact String.lt_trans hlt (hcons.1 b hb)
      · rename_i hlt
        split
        · exact sorted_cons.mpr hcons
        · rename_i hne
          refine sorted_cons.mpr ⟨fun b hb => ?_, ih hcons.2⟩
          rcases key_of_mem_insertWith hb with hb | ⟨c, hc, heq⟩
          · rw [hb]; exact lt_of_not_lt_of_ne hlt hne
          · rw [← heq]; exact hcons.1 c hc

/-- Bindings written in any order give a map. -/
theorem sorted_ofBindings (bindings : List (String × α)) : Sorted (ofBindings bindings) := by
  induction bindings with
  | nil => exact sorted_nil
  | cons binding rest ih => exact sorted_insertWith ih

/-! ## Values -/

/-- A key below all others is bound to nothing. -/
theorem lookup_eq_none_of_lt {key : String} {bindings : List (String × α)}
    (h : ∀ b ∈ bindings, key < b.1) : lookup key bindings = none := by
  induction bindings with
  | nil => rfl
  | cons binding rest ih =>
      have hne : binding.1 ≠ key := fun heq =>
        String.lt_irrefl key (heq ▸ h binding List.mem_cons_self)
      simp [lookup, hne, ih fun b hb => h b (List.mem_cons_of_mem _ hb)]

/-- Insertion changes the value of its own key only. -/
theorem lookup_insertWith (key k : String) (fresh : α) (update : α → α)
    {bindings : List (String × α)} (h : Sorted bindings) :
    lookup k (insertWith key fresh update bindings) =
      if key = k then some (((lookup key bindings).map update).getD fresh)
      else lookup k bindings := by
  induction bindings with
  | nil => simp [insertWith, lookup]
  | cons binding rest ih =>
      obtain ⟨k', v'⟩ := binding
      have hcons := sorted_cons.mp h
      simp only [insertWith]
      split
      · rename_i hlt
        have hnone : lookup key ((k', v') :: rest) = none := by
          refine lookup_eq_none_of_lt fun b hb => ?_
          rcases List.mem_cons.mp hb with hb | hb
          · rw [hb]; exact hlt
          · exact String.lt_trans hlt (hcons.1 b hb)
        rw [hnone]
        rfl
      · split
        · rename_i heq
          subst heq
          by_cases hk : key = k <;> simp [lookup, hk]
        · rename_i hne
          by_cases hk : k' = k
          · subst hk
            simp [lookup, hne]
          · simp [lookup, hk, Ne.symm hne, ih hcons.2]

end Keyed
end SyntaxCensus
