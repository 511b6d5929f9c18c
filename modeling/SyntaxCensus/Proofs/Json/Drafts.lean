import SyntaxCensus.Proofs.Json.Nesting

/-!
# Documents as they are written

A document may give one key of an object several values, of which the last one
counts.  Its draft has all of them, in the order they are written.  How deep a
document nests its containers is how high its draft is.  The value may be lower
than that, but only where a member that reaches deep is replaced by a later one.

Main definitions:

- `Drafts`: octets begin with a draft.
- `Json.settled`: the value of a draft.
- `Json.Replaces`: a value in a draft is replaced by a later one.
- `Json.DraftedAs`: a text is the document with a draft.
- `Json.RepeatsKey`: a document gives a key several values.

Main results:

- `Drafts.unique`: octets have one draft.
- `Drafts.run_eq`, `Reading.completes_of_run`: the machine reads the values of
  drafts, and nothing else.
- `Json.parse_eq_ok_iff_draftedAs`: texts are documents by their drafts.
- `Json.DraftedAs.nesting_eq`: how deep a document is nested.
- `Json.height_le_settled`: how much higher a draft may be than its value.
-/

namespace SyntaxCensus

/-! ## Drafts -/

mutual

/-- Octets begin with a draft, and others follow it. -/
inductive Drafts : List UInt8 → Json → List UInt8 → Prop
  | scalar {input more rest : List UInt8} {octet : UInt8} {value : Json}
      (skipped : skipBlanks input = octet :: more)
      (noContainer : octet ≠ Octet.openBracket ∧ octet ≠ Octet.openBrace)
      (scanned : scanScalar (octet :: more) = .ok (value, rest)) : Drafts input value rest
  | emptyArray {input inside rest : List UInt8}
      (skipped : skipBlanks input = Octet.openBracket :: inside)
      (closed : scanFirstItem inside = .ok (false, rest)) : Drafts input (.array []) rest
  | array {input inside first after rest : List UInt8} {item : Json} {items : List Json}
      (skipped : skipBlanks input = Octet.openBracket :: inside)
      (begun : scanFirstItem inside = .ok (true, first)) (drafted : Drafts first item after)
      (others : DraftsItems after items rest) : Drafts input (.array (item :: items)) rest
  | emptyObject {input inside rest : List UInt8}
      (skipped : skipBlanks input = Octet.openBrace :: inside)
      (closed : scanFirstKey inside = .ok (none, rest)) : Drafts input (.object []) rest
  | object {input inside first after rest : List UInt8} {key : String} {value : Json}
      {members : List (String × Json)}
      (skipped : skipBlanks input = Octet.openBrace :: inside)
      (begun : scanFirstKey inside = .ok (some key, first)) (drafted : Drafts first value after)
      (others : DraftsMembers after members rest) :
      Drafts input (.object ((key, value) :: members)) rest

/-- After an item of an array octets go on with other items, up to its end. -/
inductive DraftsItems : List UInt8 → List Json → List UInt8 → Prop
  | closed {input rest : List UInt8} (closed : scanNextItem input = .ok (false, rest)) :
      DraftsItems input [] rest
  | next {input first after rest : List UInt8} {item : Json} {items : List Json}
      (begun : scanNextItem input = .ok (true, first)) (drafted : Drafts first item after)
      (others : DraftsItems after items rest) : DraftsItems input (item :: items) rest

/-- After a member of an object octets go on with other members, up to its end. -/
inductive DraftsMembers : List UInt8 → List (String × Json) → List UInt8 → Prop
  | closed {input rest : List UInt8} (closed : scanNextKey input = .ok (none, rest)) :
      DraftsMembers input [] rest
  | next {input first after rest : List UInt8} {key : String} {value : Json}
      {members : List (String × Json)}
      (begun : scanNextKey input = .ok (some key, first)) (drafted : Drafts first value after)
      (others : DraftsMembers after members rest) :
      DraftsMembers input ((key, value) :: members) rest

end

mutual

/-- Octets have one draft. -/
theorem Drafts.unique {input rest rest' : List UInt8} {draft other : Json}
    (h : Drafts input draft rest) (h' : Drafts input other rest') :
    draft = other ∧ rest = rest' := by
  have hmarks : Octet.openBracket ≠ Octet.openBrace := by decide
  cases h with
  | scalar skipped noContainer scanned => cases h' <;> simp_all
  | emptyArray skipped closed => cases h' <;> simp_all
  | emptyObject skipped closed => cases h' <;> simp_all
  | array skipped begun drafted others =>
      cases h' with
      | array skipped' begun' drafted' others' =>
          obtain ⟨-, rfl⟩ := List.cons.inj (skipped.symm.trans skipped')
          obtain ⟨-, rfl⟩ := Prod.mk.inj (Except.ok.inj (begun.symm.trans begun'))
          obtain ⟨rfl, rfl⟩ := drafted.unique drafted'
          obtain ⟨rfl, rfl⟩ := others.unique others'
          exact ⟨rfl, rfl⟩
      | _ => simp_all
  | object skipped begun drafted others =>
      cases h' with
      | object skipped' begun' drafted' others' =>
          obtain ⟨-, rfl⟩ := List.cons.inj (skipped.symm.trans skipped')
          obtain ⟨hkey, rfl⟩ := Prod.mk.inj (Except.ok.inj (begun.symm.trans begun'))
          obtain rfl := Option.some.inj hkey
          obtain ⟨rfl, rfl⟩ := drafted.unique drafted'
          obtain ⟨rfl, rfl⟩ := others.unique others'
          exact ⟨rfl, rfl⟩
      | _ => simp_all

/-- The items are those of the octets, and so is what comes after them. -/
theorem DraftsItems.unique {input rest rest' : List UInt8} {items items' : List Json}
    (h : DraftsItems input items rest) (h' : DraftsItems input items' rest') :
    items = items' ∧ rest = rest' := by
  cases h with
  | closed closed => cases h' <;> simp_all
  | next begun drafted others =>
      cases h' with
      | closed closed' => simp_all
      | next begun' drafted' others' =>
          obtain ⟨-, rfl⟩ := Prod.mk.inj (Except.ok.inj (begun.symm.trans begun'))
          obtain ⟨rfl, rfl⟩ := drafted.unique drafted'
          obtain ⟨rfl, rfl⟩ := others.unique others'
          exact ⟨rfl, rfl⟩

theorem DraftsMembers.unique {input rest rest' : List UInt8}
    {members members' : List (String × Json)} (h : DraftsMembers input members rest)
    (h' : DraftsMembers input members' rest') : members = members' ∧ rest = rest' := by
  cases h with
  | closed closed => cases h' <;> simp_all
  | next begun drafted others =>
      cases h' with
      | closed closed' => simp_all
      | next begun' drafted' others' =>
          obtain ⟨hkey, rfl⟩ := Prod.mk.inj (Except.ok.inj (begun.symm.trans begun'))
          obtain rfl := Option.some.inj hkey
          obtain ⟨rfl, rfl⟩ := drafted.unique drafted'
          obtain ⟨rfl, rfl⟩ := others.unique others'
          exact ⟨rfl, rfl⟩

end

/-! ## Values of drafts -/

namespace Json

mutual

/-- The value of a draft: of several values of a key the last one counts. -/
def settled : Json → Json
  | .array items => .array (settledItems items)
  | .object members => .ofBindings (settledMembers members)
  | .null => .null
  | .bool value => .bool value
  | .number value => .number value
  | .string value => .string value

/-- The values of all items. -/
def settledItems : List Json → List Json
  | [] => []
  | item :: rest => item.settled :: settledItems rest

/-- The values of all members, in the order they are written. -/
def settledMembers : List (String × Json) → List (String × Json)
  | [] => []
  | (key, value) :: rest => (key, value.settled) :: settledMembers rest

end

theorem settledMembers_eq_map (members : List (String × Json)) :
    settledMembers members = members.map fun member => (member.1, member.2.settled) := by
  induction members with
  | nil => rfl
  | cons member rest ih => rw [settledMembers, ih, List.map_cons]

/-- A scalar is its own value. -/
theorem settled_scanScalar {input rest : List UInt8} {value : Json}
    (h : scanScalar input = .ok (value, rest)) : value.settled = value := by
  unfold scanScalar at h
  split at h
  · cases h
  · repeat' split at h
    all_goals cases h <;> rw [settled]

end Json

/-! ## The machine reads drafts -/

namespace Frame

/-- After a value in the innermost of the open containers, octets go on up to the
end of the outermost one: all containers together are the result. -/
def Closes : List Frame → Json → List UInt8 → Json → List UInt8 → Prop
  | [], value, input, result, rest => value = result ∧ input = rest
  | .array done :: stack, value, input, result, rest =>
      ∃ items after, DraftsItems input items after ∧
        Closes stack (.array (done.reverse ++ value :: Json.settledItems items)) after result rest
  | .object done key :: stack, value, input, result, rest =>
      ∃ members after, DraftsMembers input members after ∧
        Closes stack (.ofBindings (done.reverse ++ (key, value) :: Json.settledMembers members))
          after result rest

end Frame

namespace Reading

/-- What is still to be read is written as drafts, and completes the result. -/
def Completes (result : Json) (rest : List UInt8) : Reading → Prop
  | .awaiting stack input =>
      ∃ draft after, Drafts input draft after ∧ Frame.Closes stack draft.settled after result rest
  | .holding stack value input => Frame.Closes stack value input result rest

section Step

variable {limit : Option Nat} {stack : List Frame} {input rest : List UInt8} {next : Reading}
  {result : Json}

/-- What a step begins with is what the drafts begin with. -/
theorem completes_of_start (h : start limit stack input = .ok next)
    (hnext : next.Completes result rest) : (awaiting stack input).Completes result rest := by
  unfold start at h
  split at h
  · cases h
  · rename_i octet inside hskip
    split at h
    · rename_i hbracket
      subst hbracket
      split at h
      · cases h
      · split at h
        · cases h
        · rename_i hfirst
          obtain rfl := Except.ok.inj h
          obtain ⟨item, after, hitem, items, after', hitems, hcloses⟩ := hnext
          exact ⟨.array (item :: items), after', .array hskip hfirst hitem hitems, hcloses⟩
        · rename_i hfirst
          obtain rfl := Except.ok.inj h
          exact ⟨.array [], _, .emptyArray hskip hfirst, hnext⟩
    · rename_i hbracket
      split at h
      · rename_i hbrace
        subst hbrace
        split at h
        · cases h
        · split at h
          · cases h
          · rename_i hfirst
            obtain rfl := Except.ok.inj h
            obtain ⟨value, after, hvalue, members, after', hmembers, hcloses⟩ := hnext
            exact ⟨.object ((_, value) :: members), after', .object hskip hfirst hvalue hmembers,
              hcloses⟩
          · rename_i hfirst
            obtain rfl := Except.ok.inj h
            exact ⟨.object [], _, .emptyObject hskip hfirst, hnext⟩
      · rename_i hbrace
        split at h
        · cases h
        · rename_i value after hscalar
          obtain rfl := Except.ok.inj h
          refine ⟨value, after, .scalar hskip ⟨hbracket, hbrace⟩ hscalar, ?_⟩
          rw [Json.settled_scanScalar hscalar]
          exact hnext

/-- What a step goes on with is what the drafts go on with. -/
theorem completes_of_resume {frame : Frame} {value : Json}
    (h : resume frame stack value input = .ok next) (hnext : next.Completes result rest) :
    (holding (frame :: stack) value input).Completes result rest := by
  unfold resume at h
  split at h
  · split at h
    · cases h
    · rename_i hitem
      obtain rfl := Except.ok.inj h
      obtain ⟨item, after, hdraft, items, after', hitems, hcloses⟩ := hnext
      refine ⟨item :: items, after', .next hitem hdraft hitems, ?_⟩
      simpa [Json.settledItems] using hcloses
    · rename_i hitem
      obtain rfl := Except.ok.inj h
      refine ⟨[], _, .closed hitem, ?_⟩
      simpa [Completes, Json.settledItems] using hnext
  · split at h
    · cases h
    · rename_i hkey
      obtain rfl := Except.ok.inj h
      obtain ⟨draft, after, hdraft, members, after', hmembers, hcloses⟩ := hnext
      refine ⟨(_, draft) :: members, after', .next hkey hdraft hmembers, ?_⟩
      simpa [Json.settledMembers] using hcloses
    · rename_i hkey
      obtain rfl := Except.ok.inj h
      refine ⟨[], _, .closed hkey, ?_⟩
      simpa [Completes, Json.settledMembers] using hnext

end Step

/-- A run reads what is written as drafts. -/
theorem completes_of_run {limit : Option Nat} {reading : Reading} {result : Json}
    {rest : List UInt8} (h : run limit reading = .ok (result, rest)) :
    reading.Completes result rest := by
  fun_induction run limit reading with
  | case1 => cases h
  | case2 stack input next hstart ih => exact completes_of_start hstart (ih h)
  | case3 value input =>
      obtain ⟨rfl, rfl⟩ := Prod.mk.inj (Except.ok.inj h)
      exact ⟨rfl, rfl⟩
  | case4 => cases h
  | case5 frame stack value input next hresume ih => exact completes_of_resume hresume (ih h)

end Reading

open Reading (start resume run run_awaiting run_holding)

mutual

/-- Where octets begin with a draft, a run without a bound reads its value. -/
theorem Drafts.run_eq {input rest : List UInt8} {draft : Json} (h : Drafts input draft rest)
    (stack : List Frame) :
    run none (.awaiting stack input) = run none (.holding stack draft.settled rest) := by
  have hmarks : Octet.openBrace ≠ Octet.openBracket := by decide
  cases h with
  | scalar skipped noContainer scanned =>
      refine run_awaiting ?_
      rw [Json.settled_scanScalar scanned, start, skipped]
      simp only [if_neg noContainer.1, if_neg noContainer.2, scanned]
  | emptyArray skipped closed =>
      refine run_awaiting ?_
      simp [start, skipped, Reading.isFull, closed, Json.settled, Json.settledItems]
  | emptyObject skipped closed =>
      refine run_awaiting ?_
      simp [start, skipped, Reading.isFull, closed, Json.settled, Json.settledMembers, hmarks]
      rfl
  | @array _ _ first _ _ _ _ skipped begun drafted others =>
      -- The container is opened empty; its first item is read in it, then the others.
      have hstart : start none stack input = .ok (.awaiting (.array [] :: stack) first) := by
        simp [start, skipped, Reading.isFull, begun]
      rw [run_awaiting hstart, drafted.run_eq, others.run_eq]
      rfl
  | @object _ _ first _ _ key _ _ skipped begun drafted others =>
      have hstart : start none stack input = .ok (.awaiting (.object [] key :: stack) first) := by
        simp [start, skipped, Reading.isFull, begun, hmarks]
      rw [run_awaiting hstart, drafted.run_eq, others.run_eq]
      rfl

/-- The machine comes from the items to the array they settle to, whatever is open. -/
theorem DraftsItems.run_eq {input rest : List UInt8} {items : List Json}
    (h : DraftsItems input items rest) (stack : List Frame) (done : List Json) (value : Json) :
    run none (.holding (.array done :: stack) value input) =
      run none
        (.holding stack (.array (done.reverse ++ value :: Json.settledItems items)) rest) := by
  cases h with
  | closed closed =>
      refine run_holding ?_
      simp [resume, closed, Json.settledItems]
  | @next _ first _ _ _ _ begun drafted others =>
      have hresume : resume (.array done) stack value input =
          .ok (.awaiting (.array (value :: done) :: stack) first) := by
        simp [resume, begun]
      rw [run_holding hresume, drafted.run_eq, others.run_eq, Json.settledItems,
        List.reverse_cons, List.append_assoc, List.singleton_append]

/-- It comes from the members to the object in which the last one of each key holds. -/
theorem DraftsMembers.run_eq {input rest : List UInt8} {members : List (String × Json)}
    (h : DraftsMembers input members rest) (stack : List Frame) (done : List (String × Json))
    (key : String) (value : Json) :
    run none (.holding (.object done key :: stack) value input) =
      run none (.holding stack
        (.ofBindings (done.reverse ++ (key, value) :: Json.settledMembers members)) rest) := by
  cases h with
  | closed closed =>
      refine run_holding ?_
      simp [resume, closed, Json.settledMembers]
  | @next _ first _ _ following _ _ begun drafted others =>
      have hresume : resume (.object done key) stack value input =
          .ok (.awaiting (.object ((key, value) :: done) following :: stack) first) := by
        simp [resume, begun]
      rw [run_holding hresume, drafted.run_eq, others.run_eq, Json.settledMembers,
        List.reverse_cons, List.append_assoc, List.singleton_append]

end

/-! ## How deep drafts are nested -/

section Nesting

open Quotation (deepest deepest_opening deepest_closing le_deepest)

mutual

/-- As many containers are open at one place of a draft as it is high. -/
theorem Drafts.deepest_eq {input rest : List UInt8} {draft : Json} (h : Drafts input draft rest)
    (opened : Nat) :
    deepest .outside opened input =
      max (opened + draft.height) (deepest .outside opened rest) := by
  have hbracket : Octet.isOpening Octet.openBracket = true := by decide
  have hbrace : Octet.isOpening Octet.openBrace = true := by decide
  have hblanks := (level_skipBlanks input).deepest_eq opened
  have hrest := le_deepest .outside opened rest
  cases h with
  | scalar skipped noContainer scanned =>
      rw [hblanks, skipped, (level_scanScalar scanned).deepest_eq, Json.height_scanScalar scanned]
      exact (Nat.max_eq_right hrest).symm
  | emptyArray skipped closed =>
      rw [hblanks, skipped, deepest_opening hbracket, (level_scanFirstItem closed).deepest_eq]
      exact deepest_closing (by decide) opened rest
  | emptyObject skipped closed =>
      rw [hblanks, skipped, deepest_opening hbrace, (level_scanFirstKey closed).deepest_eq]
      exact deepest_closing (by decide) opened rest
  | array skipped begun drafted others =>
      rw [hblanks, skipped, deepest_opening hbracket, (level_scanFirstItem begun).deepest_eq,
        if_pos rfl, drafted.deepest_eq, others.deepest_eq, Json.height, Json.heightItems]
      omega
  | object skipped begun drafted others =>
      rw [hblanks, skipped, deepest_opening hbrace, (level_scanFirstKey begun).deepest_eq,
        Option.isSome_some, if_pos rfl, drafted.deepest_eq, others.deepest_eq, Json.height,
        Json.heightMembers]
      omega

/-- Items stand one level deeper than their array. -/
theorem DraftsItems.deepest_eq {input rest : List UInt8} {items : List Json}
    (h : DraftsItems input items rest) (opened : Nat) :
    deepest .outside (opened + 1) input =
      max (opened + 1 + Json.heightItems items) (deepest .outside opened rest) := by
  cases h with
  | closed closed =>
      rw [(level_scanNextItem closed).deepest_eq]
      exact deepest_closing (by decide) opened rest
  | next begun drafted others =>
      rw [(level_scanNextItem begun).deepest_eq, if_pos rfl, drafted.deepest_eq,
        others.deepest_eq, Json.heightItems]
      omega

theorem DraftsMembers.deepest_eq {input rest : List UInt8} {members : List (String × Json)}
    (h : DraftsMembers input members rest) (opened : Nat) :
    deepest .outside (opened + 1) input =
      max (opened + 1 + Json.heightMembers members) (deepest .outside opened rest) := by
  cases h with
  | closed closed =>
      rw [(level_scanNextKey closed).deepest_eq]
      exact deepest_closing (by decide) opened rest
  | next begun drafted others =>
      rw [(level_scanNextKey begun).deepest_eq, Option.isSome_some, if_pos rfl,
        drafted.deepest_eq, others.deepest_eq, Json.heightMembers]
      omega

end

end Nesting

namespace Json

/-! ## Values that are replaced -/

/-- A value in a draft is replaced: in some object a later member has its key. -/
inductive Replaces : Json → Json → Prop
  | here {before after : List (String × Json)} {key : String} {hidden : Json}
      (again : key ∈ after.map Prod.fst) :
      Replaces (.object (before ++ (key, hidden) :: after)) hidden
  | item {items : List Json} {item hidden : Json} (mem : item ∈ items)
      (inside : Replaces item hidden) : Replaces (.array items) hidden
  | member {members : List (String × Json)} {member : String × Json} {hidden : Json}
      (mem : member ∈ members) (inside : Replaces member.2 hidden) :
      Replaces (.object members) hidden

section Height

variable {bound : Nat}

mutual

/-- A draft is no higher than its value and the values in it that are replaced. -/
theorem height_le_settled (draft : Json)
    (h : ∀ hidden, draft.Replaces hidden → hidden.height ≤ bound) :
    draft.height ≤ draft.settled.height + bound := by
  match draft with
  | .null | .bool _ | .number _ | .string _ => exact Nat.zero_le _
  | .array items =>
      have hitems := heightItems_le_settled items fun item hitem hidden hinside =>
        h hidden (.item hitem hinside)
      simp only [settled, height]
      omega
  | .object members =>
      have hmembers : heightMembers members ≤
          heightMembers (Keyed.ofBindings (settledMembers members)) + bound := by
        refine heightMembers_le_iff.mpr fun member hmember => ?_
        have hvalue := heightMember_le_settled members
          (fun member hmember hidden hinside => h hidden (.member hmember hinside)) member hmember
        obtain ⟨before, after, rfl⟩ := List.append_of_mem hmember
        by_cases hagain : member.1 ∈ after.map Prod.fst
        · exact Nat.le_trans (h member.2 (.here hagain)) (Nat.le_add_left _ _)
        · -- No later member has its key, so that its value is one of the object's.
          have hkept : (member.1, member.2.settled) ∈
              Keyed.ofBindings (settledMembers (before ++ member :: after)) := by
            rw [settledMembers_eq_map, List.map_append, List.map_cons]
            refine Keyed.mem_ofBindings_of_last _ _ ?_
            rwa [List.map_map]
          exact Nat.le_trans hvalue
            (Nat.add_le_add_right (heightMembers_le_iff.mp (Nat.le_refl _) _ hkept) bound)
      simp only [settled, Json.ofBindings, height]
      omega

/-- Items are not higher than what they settle to and the values that were overwritten. -/
theorem heightItems_le_settled (items : List Json)
    (h : ∀ item ∈ items, ∀ hidden, item.Replaces hidden → hidden.height ≤ bound) :
    heightItems items ≤ heightItems (settledItems items) + bound := by
  match items with
  | [] => exact Nat.zero_le _
  | item :: rest =>
      obtain ⟨hitem, hrest⟩ := List.forall_mem_cons.mp h
      have hhead := height_le_settled item hitem
      have htail := heightItems_le_settled rest hrest
      simp only [settledItems, heightItems]
      omega

/-- Nor are the values of members that stay. -/
theorem heightMember_le_settled (members : List (String × Json))
    (h : ∀ member ∈ members, ∀ hidden, member.2.Replaces hidden → hidden.height ≤ bound) :
    ∀ member ∈ members, member.2.height ≤ member.2.settled.height + bound := by
  match members with
  | [] => exact List.forall_mem_nil _
  | (key, value) :: rest =>
      obtain ⟨hvalue, hrest⟩ := List.forall_mem_cons.mp h
      exact List.forall_mem_cons.mpr
        ⟨height_le_settled value hvalue, heightMember_le_settled rest hrest⟩

end

end Height

/-! ## Documents -/

/-- A text is the document with a draft. -/
def DraftedAs (text : String) (draft : Json) : Prop :=
  ∃ rest, Drafts (Utf8.encode text) draft rest ∧ skipBlanks rest = []

/-- A text is a document in which some object gives a key several values. -/
def RepeatsKey (text : String) : Prop :=
  ∃ draft hidden, DraftedAs text draft ∧ draft.Replaces hidden

/-- A text is a document exactly if it is drafted, and its value is that of the
draft. -/
theorem parse_eq_ok_iff_draftedAs {text : String} {document : Json} :
    parse text = .ok document ↔ ∃ draft, DraftedAs text draft ∧ draft.settled = document := by
  rw [parse_eq_ok_iff, read_eq_ok_iff]
  constructor
  · rintro ⟨rest, hrun, hskip⟩
    obtain ⟨draft, after, hdraft, hvalue, rfl⟩ := Reading.completes_of_run hrun
    exact ⟨draft, ⟨after, hdraft, hskip⟩, hvalue⟩
  · rintro ⟨draft, ⟨rest, hdraft, hskip⟩, rfl⟩
    exact ⟨rest, (hdraft.run_eq []).trans (by rw [Reading.run]), hskip⟩

namespace DraftedAs

variable {text : String} {draft : Json}

/-- A text has one draft. -/
theorem unique {other : Json} (h : DraftedAs text draft) (h' : DraftedAs text other) :
    draft = other := by
  obtain ⟨_, hdraft, -⟩ := h
  obtain ⟨_, hdraft', -⟩ := h'
  exact (hdraft.unique hdraft').1

/-- A document nests as many containers as its draft is high. -/
theorem nesting_eq (h : DraftedAs text draft) : nesting (Utf8.encode text) = draft.height := by
  obtain ⟨rest, hdraft, hskip⟩ := h
  have hrest := (level_skipBlanks rest).deepest_eq 0
  rw [hskip, Quotation.deepest] at hrest
  rw [nesting, hdraft.deepest_eq, hrest]
  omega

/-- A document that nests more containers than its value replaces a deep value by
a later one. -/
theorem exists_replaces (h : DraftedAs text draft) {bound : Nat}
    (hdeep : draft.settled.height + bound < nesting (Utf8.encode text)) :
    ∃ hidden, draft.Replaces hidden ∧ bound < hidden.height := by
  refine Classical.byContradiction fun hnone => ?_
  have hbound : ∀ hidden, draft.Replaces hidden → hidden.height ≤ bound := fun hidden hreplaced =>
    Nat.le_of_not_lt fun hlt => hnone ⟨hidden, hreplaced, hlt⟩
  have hheight := draft.height_le_settled hbound
  rw [h.nesting_eq] at hdeep
  exact absurd hdeep (Nat.not_lt.mpr hheight)

end DraftedAs
end Json
end SyntaxCensus
