import SyntaxCensus.Keyed

/-!
# Bindings by their values

Sorted bindings are known by the values they give to keys: two lists that bind
every key alike are the same list.  A list that is sorted already is the map of
its bindings, so writing a map down and reading it back changes nothing.

Main definitions:

- `Keyed.BoundLast`: what the last binding of a key is to.

Main results:

- `Keyed.ext_lookup`: sorted bindings with the same values are equal.
- `Keyed.ofBindings_of_sorted`: sorted bindings are their own map.
- `Keyed.lookup_ofBindings_cons`, `Keyed.mem_ofBindings_iff`: of several bindings
  of a key the last one counts.
- `Keyed.ofBindings_map`: values may be changed before or after.
- `Keyed.ofBindings_swap`: the order of different keys is of no consequence.
- `Keyed.lookup_insertWith_const`, `Keyed.insertWith_insertWith_const`: binding
  a key to a value, whatever it was bound to before.
-/

namespace SyntaxCensus
namespace Keyed

variable {α : Type}

/-! ## Values and members -/

/-- A key with a value is bound in the list. -/
theorem mem_of_lookup {key : String} {value : α} {bindings : List (String × α)}
    (h : lookup key bindings = some value) : (key, value) ∈ bindings := by
  induction bindings with
  | nil => simp [lookup] at h
  | cons binding rest ih =>
      obtain ⟨k, v⟩ := binding
      by_cases hk : k = key
      · simp only [lookup, hk, if_true, Option.some.injEq] at h
        rw [hk, h]
        exact List.mem_cons_self
      · simp only [lookup, hk, if_false] at h
        exact List.mem_cons_of_mem _ (ih h)

/-- In sorted bindings every binding gives its key its value. -/
theorem lookup_of_mem {key : String} {value : α} {bindings : List (String × α)}
    (hsorted : Sorted bindings) (h : (key, value) ∈ bindings) :
    lookup key bindings = some value := by
  induction bindings with
  | nil => simp at h
  | cons binding rest ih =>
      obtain ⟨k, v⟩ := binding
      have hcons := sorted_cons.mp hsorted
      rcases List.mem_cons.mp h with h | h
      · obtain ⟨rfl, rfl⟩ := Prod.mk.inj h
        simp [lookup]
      · have hne : k ≠ key := fun heq => String.lt_irrefl k (heq ▸ hcons.1 _ h)
        simp only [lookup, hne, if_false]
        exact ih hcons.2 h

/-- Sorted bindings that give every key the same value are equal. -/
theorem ext_lookup {a b : List (String × α)} (ha : Sorted a) (hb : Sorted b)
    (h : ∀ key, lookup key a = lookup key b) : a = b := by
  induction a generalizing b with
  | nil =>
      cases b with
      | nil => rfl
      | cons binding rest => simpa [lookup] using h binding.1
  | cons first more ih =>
      cases b with
      | nil => simpa [lookup] using h first.1
      | cons second rest =>
          have hfirst := sorted_cons.mp ha
          have hsecond := sorted_cons.mp hb
          have hmem : first ∈ second :: rest :=
            mem_of_lookup ((h first.1).symm.trans (lookup_of_mem ha List.mem_cons_self))
          have hmem' : second ∈ first :: more :=
            mem_of_lookup ((h second.1).trans (lookup_of_mem hb List.mem_cons_self))
          have heq : first = second := by
            rcases List.mem_cons.mp hmem with heq | hlt
            · exact heq
            · rcases List.mem_cons.mp hmem' with heq | hlt'
              · exact heq.symm
              · exact absurd (hsecond.1 first hlt) (String.lt_asymm (hfirst.1 second hlt'))
          subst heq
          refine congrArg (first :: ·) (ih hfirst.2 hsecond.2 fun key => ?_)
          by_cases hkey : first.1 = key
          · rw [← hkey, lookup_eq_none_of_lt hfirst.1, lookup_eq_none_of_lt hsecond.1]
          · simpa [lookup, hkey] using h key

/-! ## Inserting in front and writing maps down -/

/-- A key below all others is inserted in front. -/
theorem insertWith_of_lt {key : String} {fresh : α} {update : α → α}
    {bindings : List (String × α)} (h : ∀ b ∈ bindings, key < b.1) :
    insertWith key fresh update bindings = (key, fresh) :: bindings := by
  cases bindings with
  | nil => rfl
  | cons binding rest => simp [insertWith, h binding List.mem_cons_self]

/-- Sorted bindings are the map of these bindings. -/
theorem ofBindings_of_sorted {bindings : List (String × α)} (h : Sorted bindings) :
    ofBindings bindings = bindings := by
  induction bindings with
  | nil => rfl
  | cons binding rest ih =>
      have hcons := sorted_cons.mp h
      have hrest : ofBindings (binding :: rest) = insertNew binding.1 binding.2 (ofBindings rest) :=
        rfl
      rw [hrest, ih hcons.2, insertNew, insertWith_of_lt hcons.1]

/-- The first of some bindings gives its key a value only if no later one does. -/
theorem lookup_ofBindings_cons (binding : String × α) (rest : List (String × α)) (key : String) :
    lookup key (ofBindings (binding :: rest)) =
      (lookup key (ofBindings rest)).or (if binding.1 = key then some binding.2 else none) := by
  have hstep : ofBindings (binding :: rest) =
      insertWith binding.1 binding.2 id (ofBindings rest) := rfl
  rw [hstep, lookup_insertWith _ _ _ _ (sorted_ofBindings rest)]
  by_cases hkey : binding.1 = key
  · subst hkey
    cases lookup binding.1 (ofBindings rest) <;> simp
  · simp [hkey]

/-- Of two bindings the second one counts first. -/
theorem lookup_ofBindings_pair (key next other : String) (first second : α) :
    lookup other (ofBindings [(key, first), (next, second)]) =
      if next = other then some second else if key = other then some first else none := by
  have hnone : lookup other (ofBindings ([] : List (String × α))) = none := rfl
  rw [lookup_ofBindings_cons, lookup_ofBindings_cons, hnone, Option.none_or]
  split
  · rfl
  · exact Option.none_or

/-- Two bindings of different keys are the same map in either order. -/
theorem ofBindings_swap {key next : String} (h : key ≠ next) (first second : α) :
    ofBindings [(key, first), (next, second)] = ofBindings [(next, second), (key, first)] := by
  refine ext_lookup (sorted_ofBindings _) (sorted_ofBindings _) fun other => ?_
  rw [lookup_ofBindings_pair, lookup_ofBindings_pair]
  by_cases hkey : key = other
  · have hnext : next ≠ other := hkey ▸ Ne.symm h
    rw [if_neg hnext, if_pos hkey, if_pos hkey]
  · rw [if_neg hkey, if_neg hkey]

/-- The keys that are bound are those of the bindings. -/
theorem lookup_ofBindings_eq_none_iff {key : String} {bindings : List (String × α)} :
    lookup key (ofBindings bindings) = none ↔ key ∉ bindings.map Prod.fst := by
  induction bindings with
  | nil => simp [ofBindings, lookup]
  | cons binding rest ih =>
      rw [lookup_ofBindings_cons, Option.or_eq_none_iff, ih, List.map_cons, List.mem_cons, not_or]
      by_cases hkey : binding.1 = key
      · simp [hkey]
      · simp [hkey, Ne.symm hkey]

/-- The last binding of a key is one of those of the map. -/
theorem mem_ofBindings_of_last (before : List (String × α)) {after : List (String × α)}
    {key : String} (value : α) (hlast : key ∉ after.map Prod.fst) :
    (key, value) ∈ ofBindings (before ++ (key, value) :: after) := by
  refine mem_of_lookup ?_
  induction before with
  | nil =>
      rw [List.nil_append, lookup_ofBindings_cons, lookup_ofBindings_eq_none_iff.mpr hlast,
        Option.none_or, if_pos rfl]
  | cons binding before ih => rw [List.cons_append, lookup_ofBindings_cons, ih, Option.some_or]

/-- The last binding of a key in a list is to a value. -/
def BoundLast (bindings : List (String × α)) (key : String) (value : α) : Prop :=
  ∃ before after, bindings = before ++ (key, value) :: after ∧ key ∉ after.map Prod.fst

/-- What is bound last among later bindings is bound last. -/
theorem boundLast_cons {binding : String × α} {rest : List (String × α)} {key : String} {value : α}
    (h : BoundLast rest key value) : BoundLast (binding :: rest) key value := by
  obtain ⟨before, after, rfl, hlast⟩ := h
  exact ⟨binding :: before, after, rfl, hlast⟩

/-- A map binds every key to its last value. -/
theorem mem_ofBindings_iff {bindings : List (String × α)} {key : String} {value : α} :
    (key, value) ∈ ofBindings bindings ↔ BoundLast bindings key value := by
  constructor
  · intro h
    have hlookup : lookup key (ofBindings bindings) = some value :=
      lookup_of_mem (sorted_ofBindings bindings) h
    clear h
    induction bindings with
    | nil => simp [ofBindings, lookup] at hlookup
    | cons binding rest ih =>
        rw [lookup_ofBindings_cons, Option.or_eq_some_iff] at hlookup
        rcases hlookup with hrest | ⟨hrest, hfirst⟩
        · exact boundLast_cons (ih hrest)
        · obtain ⟨k, v⟩ := binding
          by_cases hkey : k = key
          · rw [if_pos hkey] at hfirst
            obtain rfl := Option.some.inj hfirst
            exact ⟨[], rest, by rw [hkey]; rfl, lookup_ofBindings_eq_none_iff.mp hrest⟩
          · rw [if_neg hkey] at hfirst
            cases hfirst
  · rintro ⟨before, after, rfl, hlast⟩
    exact mem_ofBindings_of_last before value hlast

/-- The bindings of a map are among those that it was made of. -/
theorem mem_of_mem_ofBindings {binding : String × α} {bindings : List (String × α)}
    (h : binding ∈ ofBindings bindings) : binding ∈ bindings := by
  obtain ⟨before, after, rfl, -⟩ := mem_ofBindings_iff.mp h
  exact List.mem_append_right before List.mem_cons_self

/-- Values may be changed before or after a map is made of the bindings. -/
theorem insertNew_map {β : Type} (f : α → β) (key : String) (value : α)
    (bindings : List (String × α)) :
    insertNew key (f value) (bindings.map fun binding => (binding.1, f binding.2)) =
      (insertNew key value bindings).map fun binding => (binding.1, f binding.2) := by
  unfold insertNew
  induction bindings with
  | nil => rfl
  | cons binding rest ih =>
      simp only [List.map_cons, insertWith]
      split
      · rfl
      · split
        · rfl
        · rw [ih]
          rfl

/-- Values may be changed before or after the last ones are kept. -/
theorem ofBindings_map {β : Type} (f : α → β) (bindings : List (String × α)) :
    ofBindings (bindings.map fun binding => (binding.1, f binding.2)) =
      (ofBindings bindings).map fun binding => (binding.1, f binding.2) := by
  induction bindings with
  | nil => rfl
  | cons binding rest ih =>
      have hstep : ofBindings (binding :: rest) = insertNew binding.1 binding.2 (ofBindings rest) :=
        rfl
      rw [hstep, ← insertNew_map, ← ih]
      rfl

/-- Binding a key to one value, fresh or not, in bindings of any order. -/
theorem lookup_insertWith_const (key k : String) (value : α) (bindings : List (String × α)) :
    lookup k (insertWith key value (fun _ => value) bindings) =
      if key = k then some value else lookup k bindings := by
  induction bindings with
  | nil => simp [insertWith, lookup]
  | cons binding rest ih =>
      obtain ⟨k', v'⟩ := binding
      simp only [insertWith]
      split
      · simp [lookup]
      · split
        · rename_i heq
          subst heq
          by_cases hk : key = k <;> simp [lookup, hk]
        · rename_i hne
          by_cases hk : k' = k
          · subst hk
            simp [lookup, hne]
          · simp [lookup, hk, ih]

/-- Of two values that a key is bound to the second one stays. -/
theorem insertWith_insertWith_const (key : String) (first second : α)
    (bindings : List (String × α)) :
    insertWith key second (fun _ => second) (insertWith key first (fun _ => first) bindings) =
      insertWith key second (fun _ => second) bindings := by
  induction bindings with
  | nil => simp [insertWith]
  | cons binding rest ih =>
      obtain ⟨k, v⟩ := binding
      by_cases hlt : key < k
      · simp [insertWith, hlt]
      · by_cases heq : key = k
        · simp [insertWith, heq]
        · simp [insertWith, hlt, heq, ih]

end Keyed
end SyntaxCensus
