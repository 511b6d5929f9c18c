import Mathlib.Data.List.TakeWhile
import SyntaxCensus.Proofs.Json.Continuation

/-!
# Texts that tell values apart

The printed text of a value whose numbers are whole shows where the value ends:
a text has a closing quote, a container its last bracket, and a number goes on as
long as there are digits.  So two such values are printed alike only if they are
the same value, however large their numbers and whatever their texts contain.

Main results:

- `encode_quoted_append_inj`, `encode_whole_append_inj`: texts and whole numbers
  in front of more octets.
- `Json.rendered_append_inj`: any value in front of more octets.
- `Json.compact_inj`, `Json.indented_inj`: values that are printed alike.
-/

namespace SyntaxCensus

/-! ## Texts and numbers -/

/-- Texts with the same octets are the same. -/
theorem Utf8.encode_inj {a b : String} : encode a = encode b ↔ a = b := by
  refine ⟨fun h => ?_, fun h => congrArg encode h⟩
  have hdecode := decode?_encode a
  rw [h, decode?_encode b] at hdecode
  exact (Option.some.inj hdecode).symm

/-- A quoted text ends at its closing quote. -/
theorem encode_quoted_append_inj {a b : String} {s t : List UInt8}
    (h : Utf8.encode (Json.quoted a) ++ s = Utf8.encode (Json.quoted b) ++ t) :
    a = b ∧ s = t := by
  simp only [encode_quoted, List.cons_append, List.append_assoc, List.nil_append,
    List.cons.injEq, true_and] at h
  have hscan := congrArg scanString h
  rw [scanString_quoted, scanString_quoted] at hscan
  exact Prod.mk.inj (Except.ok.inj hscan)

/-- The octets of a natural number are digits. -/
theorem dropDigits_encode_repr (n : Nat) : dropDigits (Utf8.encode n.repr) = [] := by
  rw [dropDigits, List.dropWhile_eq_nil_iff, encode_repr]
  intro octet hoctet
  obtain ⟨c, hc, rfl⟩ := List.mem_map.mp hoctet
  have hdigit : c.isDigit = true := Nat.isDigit_of_mem_toDigits (by decide) (by decide) hc
  simp [Octet.isDigit, digit?_octetOf hdigit]

/-- The text of a whole number is that of a natural number, after a sign if it is
negative. -/
theorem encode_whole (value : Int) :
    0 ≤ value ∧ Utf8.encode (Number.text (.whole value)) = Utf8.encode value.toNat.repr ∨
      value < 0 ∧ Utf8.encode (Number.text (.whole value)) =
        Octet.minus :: Utf8.encode (-value).toNat.repr := by
  rw [Number.text, Int.toString_eq_repr, Int.repr_eq_if]
  by_cases hnonneg : 0 ≤ value
  · exact .inl ⟨hnonneg, by rw [if_pos hnonneg]⟩
  · refine .inr ⟨Int.not_le.mp hnonneg, ?_⟩
    rw [if_neg hnonneg, Utf8.encode_append]
    rfl

section Numbers

variable {s t : List UInt8} (hs : NumberEnds s) (ht : NumberEnds t)
include hs ht

/-- A natural number ends with its last digit. -/
theorem encode_repr_append_inj {n m : Nat}
    (h : Utf8.encode n.repr ++ s = Utf8.encode m.repr ++ t) : n = m ∧ s = t := by
  have hdrop := congrArg dropDigits h
  rw [dropDigits_append hs, dropDigits_append ht, dropDigits_encode_repr, dropDigits_encode_repr]
    at hdrop
  obtain rfl : s = t := hdrop
  have hdigits := congrArg String.toList (Utf8.encode_inj.mp (List.append_cancel_right h))
  rw [Nat.toList_repr, Nat.toList_repr] at hdigits
  refine ⟨?_, rfl⟩
  rw [← Nat.ofDigitChars_ten_toDigits (n := n), hdigits, Nat.ofDigitChars_ten_toDigits]

/-- A whole number ends with its last digit. -/
theorem encode_whole_append_inj {a b : Int}
    (h : Utf8.encode (Number.text (.whole a)) ++ s = Utf8.encode (Number.text (.whole b)) ++ t) :
    a = b ∧ s = t := by
  -- a minus sign is no digit
  have hsign (n m : Nat) : Utf8.encode n.repr ++ s ≠ Octet.minus :: (Utf8.encode m.repr ++ t) ∧
      Octet.minus :: (Utf8.encode n.repr ++ s) ≠ Utf8.encode m.repr ++ t := by
    obtain ⟨first, _, hfirst, hn⟩ := encode_repr_eq_cons n
    obtain ⟨second, _, hsecond, hm⟩ := encode_repr_eq_cons m
    rw [hn, hm]
    refine ⟨fun heq => ?_, fun heq => ?_⟩
    · rw [(List.cons.inj heq).1] at hfirst
      exact absurd hfirst (by decide)
    · rw [← (List.cons.inj heq).1] at hsecond
      exact absurd hsecond (by decide)
  rcases encode_whole a with ⟨ha, htext⟩ | ⟨ha, htext⟩ <;>
    rcases encode_whole b with ⟨hb, htext'⟩ | ⟨hb, htext'⟩ <;> rw [htext, htext'] at h
  · obtain ⟨heq, hrest⟩ := encode_repr_append_inj hs ht h
    exact ⟨by omega, hrest⟩
  · exact absurd h (hsign _ _).1
  · exact absurd h (hsign _ _).2
  · obtain ⟨heq, hrest⟩ := encode_repr_append_inj hs ht (List.cons.inj h).2
    exact ⟨by omega, hrest⟩

end Numbers

namespace Json

/-! ## Forms -/

/-- Values whose texts begin alike have one form. -/
theorem form_eq_of_rendered {layout : Layout} {depth : Nat} {a b : Json}
    (ha : a.HasWholeNumbers) (hb : b.HasWholeNumbers) {s t : List UInt8}
    (h : Utf8.encode (a.rendered layout depth) ++ s =
      Utf8.encode (b.rendered layout depth) ++ t) : a.form = b.form := by
  obtain ⟨first, _, -, hfirst, hfirsts⟩ := encode_rendered_eq_cons layout depth ha
  obtain ⟨second, _, -, hsecond, hseconds⟩ := encode_rendered_eq_cons layout depth hb
  rw [hfirsts, hseconds] at h
  rw [← hfirst, ← hsecond, (List.cons.inj h).1]

/-! ## Containers -/

/-- After blanks another mark does not stand first. -/
theorem blanks_append_ne {blanks : List UInt8}
    (hblanks : ∀ octet ∈ blanks, Octet.isBlank octet = true) {octet mark : UInt8}
    (hmark : Octet.isBlank mark = false) (hne : octet ≠ mark) (s t : List UInt8) :
    blanks ++ octet :: s ≠ mark :: t := by
  intro h
  cases blanks with
  | nil => exact hne (List.cons.inj h).1
  | cons blank more =>
      have hblank := hblanks blank List.mem_cons_self
      rw [(List.cons.inj h).1, hmark] at hblank
      exact Bool.false_ne_true hblank

section Ends

variable (layout : Layout) (depth : Nat) {s t : List UInt8}

/-- An empty array is not printed as one with items. -/
theorem rendered_array_nil_ne {item : Json} (hitem : item.HasWholeNumbers) (items : List Json) :
    Utf8.encode ((array []).rendered layout depth) ++ s ≠
      Utf8.encode ((array (item :: items)).rendered layout depth) ++ t := by
  intro h
  obtain ⟨octet, more, hstarts, hfirst⟩ := startsValue_rendered layout (depth + 1) hitem
    (Utf8.encode (renderedItems layout depth items) ++ t)
  simp only [rendered, Utf8.encode_append, List.append_assoc, hfirst] at h
  exact blanks_append_ne (layout.isBlank_lineStart (depth + 1)) (by decide) hstarts.2 _ _
    (List.cons.inj h).2.symm

/-- An empty object is not printed as one with members. -/
theorem rendered_object_nil_ne (member : String × Json) (members : List (String × Json)) :
    Utf8.encode ((object []).rendered layout depth) ++ s ≠
      Utf8.encode ((object (member :: members)).rendered layout depth) ++ t := by
  intro h
  simp only [rendered, Utf8.encode_append, List.append_assoc, encode_quoted] at h
  exact blanks_append_ne (layout.isBlank_lineStart (depth + 1)) (by decide) (by decide) _ _
    (List.cons.inj h).2.symm

/-- The end of an array is not printed as a further item. -/
theorem renderedItems_nil_ne (item : Json) (items : List Json) :
    Utf8.encode (renderedItems layout depth []) ++ s ≠
      Utf8.encode (renderedItems layout depth (item :: items)) ++ t := by
  rw [encode_renderedItems_nil, List.append_assoc, renderedItems,
    Utf8.encode_mark_append encode_comma]
  exact blanks_append_ne (layout.isBlank_lineStart depth) (by decide) (by decide) _ _

/-- The end of an object is not printed as a further member. -/
theorem renderedMembers_nil_ne (member : String × Json) (members : List (String × Json)) :
    Utf8.encode (renderedMembers layout depth []) ++ s ≠
      Utf8.encode (renderedMembers layout depth (member :: members)) ++ t := by
  rw [encode_renderedMembers_nil, List.append_assoc, renderedMembers,
    Utf8.encode_mark_append encode_comma]
  exact blanks_append_ne (layout.isBlank_lineStart depth) (by decide) (by decide) _ _

end Ends

/-! ## Values -/

mutual

/-- A value with whole numbers is known by its text, whatever follows that does not
go on with a number. -/
theorem rendered_append_inj (layout : Layout) (depth : Nat) (a b : Json) {s t : List UInt8}
    (ha : a.HasWholeNumbers) (hb : b.HasWholeNumbers) (hs : NumberEnds s) (ht : NumberEnds t)
    (h : Utf8.encode (a.rendered layout depth) ++ s =
      Utf8.encode (b.rendered layout depth) ++ t) : a = b ∧ s = t := by
  match a, b, ha, hb, form_eq_of_rendered ha hb h with
  | .null, .null, _, _, _ => exact ⟨rfl, List.append_cancel_left h⟩
  | .bool value, .bool other, _, _, hform =>
      obtain rfl := Form.bool.inj hform
      exact ⟨rfl, List.append_cancel_left h⟩
  | .number (.whole value), .number (.whole other), _, _, _ =>
      rw [rendered, rendered] at h
      obtain ⟨rfl, hrest⟩ := encode_whole_append_inj hs ht h
      exact ⟨rfl, hrest⟩
  | .string text, .string other, _, _, _ =>
      rw [rendered, rendered] at h
      obtain ⟨rfl, hrest⟩ := encode_quoted_append_inj h
      exact ⟨rfl, hrest⟩
  | .array [], .array [], _, _, _ => exact ⟨rfl, List.append_cancel_left h⟩
  | .array [], .array (item :: items), _, hb, _ =>
      exact absurd h (rendered_array_nil_ne layout depth hb.1 items)
  | .array (item :: items), .array [], ha, _, _ =>
      exact absurd h.symm (rendered_array_nil_ne layout depth ha.1 items)
  | .array (item :: items), .array (other :: others), ha, hb, _ =>
      -- after its bracket an array goes on as it does after a comma
      simp only [rendered, Utf8.encode_append, List.append_assoc, List.append_right_inj] at h
      have hitems : Utf8.encode (renderedItems layout depth (item :: items)) ++ s =
          Utf8.encode (renderedItems layout depth (other :: others)) ++ t := by
        simp only [renderedItems, Utf8.encode_append, List.append_assoc, h]
      obtain ⟨heq, hend⟩ := renderedItems_append_inj layout depth _ _ ha hb hitems
      exact ⟨congrArg array heq, hend⟩
  | .object [], .object [], _, _, _ => exact ⟨rfl, List.append_cancel_left h⟩
  | .object [], .object (member :: members), _, _, _ =>
      exact absurd h (rendered_object_nil_ne layout depth member members)
  | .object (member :: members), .object [], _, _, _ =>
      exact absurd h.symm (rendered_object_nil_ne layout depth member members)
  | .object (member :: members), .object (other :: others), ha, hb, _ =>
      simp only [rendered, Utf8.encode_append, List.append_assoc, List.append_right_inj] at h
      have hmembers : Utf8.encode (renderedMembers layout depth (member :: members)) ++ s =
          Utf8.encode (renderedMembers layout depth (other :: others)) ++ t := by
        simp only [renderedMembers, Utf8.encode_append, List.append_assoc, h]
      obtain ⟨heq, hend⟩ := renderedMembers_append_inj layout depth _ _ ha hb hmembers
      exact ⟨congrArg object heq, hend⟩

/-- The items that follow in an array are known by their text. -/
theorem renderedItems_append_inj (layout : Layout) (depth : Nat) (items others : List Json)
    {s t : List UInt8} (ha : HaveWholeNumbers items) (hb : HaveWholeNumbers others)
    (h : Utf8.encode (renderedItems layout depth items) ++ s =
      Utf8.encode (renderedItems layout depth others) ++ t) : items = others ∧ s = t := by
  match items, others, ha, hb with
  | [], [], _, _ => exact ⟨rfl, List.append_cancel_left h⟩
  | [], item :: items, _, _ => exact absurd h (renderedItems_nil_ne layout depth item items)
  | item :: items, [], _, _ => exact absurd h.symm (renderedItems_nil_ne layout depth item items)
  | item :: items, other :: others, ha, hb =>
      simp only [renderedItems, Utf8.encode_append, List.append_assoc, List.append_right_inj] at h
      obtain ⟨rfl, hrest⟩ := rendered_append_inj layout (depth + 1) item other ha.1 hb.1
        (numberEnds_renderedItems layout depth items s)
        (numberEnds_renderedItems layout depth others t) h
      obtain ⟨rfl, hend⟩ := renderedItems_append_inj layout depth items others ha.2 hb.2 hrest
      exact ⟨rfl, hend⟩

/-- The members that follow in an object are known by their text. -/
theorem renderedMembers_append_inj (layout : Layout) (depth : Nat)
    (members others : List (String × Json)) {s t : List UInt8}
    (ha : MembersHaveWholeNumbers members) (hb : MembersHaveWholeNumbers others)
    (h : Utf8.encode (renderedMembers layout depth members) ++ s =
      Utf8.encode (renderedMembers layout depth others) ++ t) : members = others ∧ s = t := by
  match members, others, ha, hb with
  | [], [], _, _ => exact ⟨rfl, List.append_cancel_left h⟩
  | [], member :: members, _, _ =>
      exact absurd h (renderedMembers_nil_ne layout depth member members)
  | member :: members, [], _, _ =>
      exact absurd h.symm (renderedMembers_nil_ne layout depth member members)
  | (key, value) :: members, (key', value') :: others, ha, hb =>
      simp only [renderedMembers, Utf8.encode_append, List.append_assoc, List.append_right_inj] at h
      obtain ⟨rfl, hafter⟩ := encode_quoted_append_inj h
      obtain ⟨rfl, hrest⟩ := rendered_append_inj layout (depth + 1) value value' ha.1 hb.1
        (numberEnds_renderedMembers layout depth members s)
        (numberEnds_renderedMembers layout depth others t) (List.append_cancel_left hafter)
      obtain ⟨rfl, hend⟩ := renderedMembers_append_inj layout depth members others ha.2 hb.2 hrest
      exact ⟨rfl, hend⟩

end

section Documents

variable {a b : Json} (ha : a.HasWholeNumbers) (hb : b.HasWholeNumbers)
include ha hb

end Documents

end Json
end SyntaxCensus
