import SyntaxCensus.Json.Reader
import SyntaxCensus.Proofs.Json.Numbers
import SyntaxCensus.Proofs.Json.Rendering
import SyntaxCensus.Proofs.Json.Strings

/-!
# Where rendered values begin and end

Between the parts of a rendered container stand separators and blanks.  A reader
skips the blanks and stops where a part begins; a number ends where a separator
or the start of a line follows it.

Main definitions:

- `Json.HasWholeNumbers`: every number in a value is whole.
- `Json.StartsValue`: octets the first of which neither is blank nor ends an
  array.
- `Json.Form`, `Json.form`: the form of a value, which the first octet of its text
  tells.
- `Json.Announces`: octets in front of the value of a key.

Main results:

- `Json.startsValue_rendered`: a rendered value starts a value.
- `scanFirstItem_blanks`, `scanNextItem_comma`: items after a separator.
- `Json.Announces.exists_scanFirstKey`, `Json.Announces.exists_scanNextKey`: keys
  after a separator.
- `numberEnds_renderedItems`, `numberEnds_renderedMembers`: a number ends before
  what follows it in a container.
-/

namespace SyntaxCensus

/-! ## Blanks -/

/-- Blanks in front are skipped. -/
theorem skipBlanks_append {blanks : List UInt8} (h : ∀ octet ∈ blanks, Octet.isBlank octet = true)
    (rest : List UInt8) : skipBlanks (blanks ++ rest) = skipBlanks rest := by
  induction blanks with
  | nil => rfl
  | cons octet more ih =>
      rw [List.cons_append, skipBlanks, if_pos (h octet List.mem_cons_self)]
      exact ih fun other hother => h other (List.mem_cons_of_mem _ hother)

theorem skipBlanks_of_not_blank {octet : UInt8} (h : Octet.isBlank octet = false)
    (rest : List UInt8) : skipBlanks (octet :: rest) = octet :: rest := by
  rw [skipBlanks, h]
  rfl

namespace Json.Layout

/-- The start of a line is blank. -/
theorem isBlank_lineStart (layout : Layout) (depth : Nat) :
    ∀ octet ∈ Utf8.encode (layout.lineStart depth), Octet.isBlank octet = true := by
  cases layout with
  | compact => simp [lineStart, Utf8.encode_empty]
  | indented =>
      have hfeed : (String.utf8EncodeChar '\n').all Octet.isBlank = true := by decide
      have hblank : (String.utf8EncodeChar ' ').all Octet.isBlank = true := by decide
      intro octet hmem
      rw [lineStart, Utf8.encode_ofList, List.flatMap_cons] at hmem
      rcases List.mem_append.mp hmem with hmem | hmem
      · exact List.all_eq_true.mp hfeed octet hmem
      · obtain ⟨c, hc, hoctet⟩ := List.mem_flatMap.mp hmem
        rw [List.eq_of_mem_replicate hc] at hoctet
        exact List.all_eq_true.mp hblank octet hoctet

/-- A colon and blanks stand after a key. -/
theorem encode_afterKey (layout : Layout) :
    ∃ blanks, (∀ octet ∈ blanks, Octet.isBlank octet = true) ∧
      Utf8.encode layout.afterKey = Octet.colon :: blanks := by
  cases layout with
  | compact => exact ⟨[], by simp, by decide⟩
  | indented => exact ⟨[Octet.blank], List.all_eq_true.mp (by decide), by decide⟩

end Json.Layout

/-! ## First octets -/

namespace Json

mutual

/-- Every number in a value is whole. -/
def HasWholeNumbers : Json → Prop
  | .null | .bool _ | .string _ => True
  | .number (.whole _) => True
  | .number (.double _) => False
  | .array items => HaveWholeNumbers items
  | .object members => MembersHaveWholeNumbers members

/-- Every number in every item is whole. -/
def HaveWholeNumbers : List Json → Prop
  | [] => True
  | item :: rest => item.HasWholeNumbers ∧ HaveWholeNumbers rest

/-- Every number in the value of every member is whole. -/
def MembersHaveWholeNumbers : List (String × Json) → Prop
  | [] => True
  | (_, value) :: rest => value.HasWholeNumbers ∧ MembersHaveWholeNumbers rest

end

/-- An octet that neither is blank nor ends an array. -/
def Starts (octet : UInt8) : Prop :=
  Octet.isBlank octet = false ∧ octet ≠ Octet.closeBracket

instance (octet : UInt8) : Decidable (Starts octet) :=
  inferInstanceAs (Decidable (_ ∧ _))

/-- Octets the first of which neither is blank nor ends an array. -/
def StartsValue (input : List UInt8) : Prop :=
  ∃ octet more, Starts octet ∧ input = octet :: more

/-- A digit or a minus sign. -/
def StartsNumber (octet : UInt8) : Prop :=
  octet = Octet.minus ∨ Octet.isDigit octet = true

/-- Another octet than a digit or a minus sign is not the one that starts. -/
theorem StartsNumber.ne {octet other : UInt8} (h : StartsNumber octet)
    (hminus : other ≠ Octet.minus) (hdigit : Octet.isDigit other = false) : octet ≠ other := by
  rintro rfl
  rcases h with h | h
  · exact hminus h
  · rw [hdigit] at h
    exact Bool.false_ne_true h

/-- A digit or a minus sign is no blank and ends no array. -/
theorem StartsNumber.starts {octet : UInt8} (h : StartsNumber octet) : Starts octet := by
  refine ⟨?_, h.ne (by decide) (by decide)⟩
  have hblank : octet ≠ Octet.blank := h.ne (by decide) (by decide)
  have hfeed : octet ≠ Octet.lineFeed := h.ne (by decide) (by decide)
  have htab : octet ≠ Octet.tab := h.ne (by decide) (by decide)
  have hreturn : octet ≠ Octet.carriageReturn := h.ne (by decide) (by decide)
  simp [Octet.isBlank, hblank, hfeed, htab, hreturn]

/-- The text of a whole number starts as a number. -/
theorem encode_number_eq_cons (value : Int) :
    ∃ octet more, StartsNumber octet ∧
      Utf8.encode (Number.text (.whole value)) = octet :: more := by
  rw [Number.text, Int.toString_eq_repr, Int.repr_eq_if]
  split
  · obtain ⟨octet, more, hdigit, heq⟩ := encode_repr_eq_cons value.toNat
    exact ⟨octet, more, Or.inr hdigit, heq⟩
  · refine ⟨Octet.minus, Utf8.encode (-value).toNat.repr, Or.inl rfl, ?_⟩
    rw [Utf8.encode_append]
    rfl

theorem encode_openBracket : Utf8.encode "[" = [Octet.openBracket] := by decide

theorem encode_openBrace : Utf8.encode "\x7b" = [Octet.openBrace] := by decide

theorem encode_comma : Utf8.encode "," = [Octet.comma] := by decide

/-- What the first octet of the text of a value tells about the value. -/
inductive Form where
  | null
  | bool (value : Bool)
  | number
  | string
  | array
  | object

/-- The form of a value. -/
def form : Json → Form
  | .null => .null
  | .bool value => .bool value
  | .number _ => .number
  | .string _ => .string
  | .array _ => .array
  | .object _ => .object

/-- The form of the values whose text begins with an octet. -/
def Form.ofOctet (octet : UInt8) : Form :=
  if octet = 0x6E then .null
  else if octet = 0x74 then .bool true
  else if octet = 0x66 then .bool false
  else if octet = Octet.quote then .string
  else if octet = Octet.openBracket then .array
  else if octet = Octet.openBrace then .object
  else .number

theorem StartsNumber.ofOctet_eq {octet : UInt8} (h : StartsNumber octet) :
    Form.ofOctet octet = .number := by
  have hn : octet ≠ 0x6E := h.ne (by decide) (by decide)
  have ht : octet ≠ 0x74 := h.ne (by decide) (by decide)
  have hf : octet ≠ 0x66 := h.ne (by decide) (by decide)
  have hquote : octet ≠ Octet.quote := h.ne (by decide) (by decide)
  have hbracket : octet ≠ Octet.openBracket := h.ne (by decide) (by decide)
  have hbrace : octet ≠ Octet.openBrace := h.ne (by decide) (by decide)
  simp only [Form.ofOctet, hn, ht, hf, hquote, hbracket, hbrace, if_false]

/-- The text of a value with whole numbers begins with an octet of its form. -/
theorem encode_rendered_eq_cons (layout : Layout) (depth : Nat) {value : Json}
    (h : value.HasWholeNumbers) :
    ∃ octet more, Starts octet ∧ Form.ofOctet octet = value.form ∧
      Utf8.encode (value.rendered layout depth) = octet :: more := by
  match value, h with
  | .null, _ => exact ⟨0x6E, _, by decide, rfl, by rw [rendered]; rfl⟩
  | .bool true, _ => exact ⟨0x74, _, by decide, rfl, by rw [rendered]; rfl⟩
  | .bool false, _ => exact ⟨0x66, _, by decide, rfl, by rw [rendered]; rfl⟩
  | .number (.whole value), _ =>
      obtain ⟨octet, more, hstart, heq⟩ := encode_number_eq_cons value
      exact ⟨octet, more, hstart.starts, hstart.ofOctet_eq, by rw [rendered, heq]⟩
  | .string text, _ =>
      exact ⟨Octet.quote, _, by decide, rfl, by rw [rendered, encode_quoted]⟩
  | .array [], _ => exact ⟨Octet.openBracket, _, by decide, rfl, by rw [rendered]; rfl⟩
  | .object [], _ => exact ⟨Octet.openBrace, _, by decide, rfl, by rw [rendered]; rfl⟩
  | .array (item :: items), _ =>
      exact ⟨Octet.openBracket, _, by decide, rfl,
        by rw [rendered, Utf8.encode_mark_append encode_openBracket]⟩
  | .object ((key, item) :: members), _ =>
      exact ⟨Octet.openBrace, _, by decide, rfl,
        by rw [rendered, Utf8.encode_mark_append encode_openBrace]⟩

/-- The text of a value with whole numbers starts a value. -/
theorem startsValue_rendered (layout : Layout) (depth : Nat) {value : Json}
    (h : value.HasWholeNumbers) (rest : List UInt8) :
    StartsValue (Utf8.encode (value.rendered layout depth) ++ rest) := by
  obtain ⟨octet, more, hstarts, -, heq⟩ := encode_rendered_eq_cons layout depth h
  exact ⟨octet, more ++ rest, hstarts, by rw [heq, List.cons_append]⟩

end Json

/-! ## After the separators -/

section Separators

variable {blanks : List UInt8} (hblanks : ∀ octet ∈ blanks, Octet.isBlank octet = true)
include hblanks

/-- Blanks may stand in front of the first item of an array. -/
theorem scanFirstItem_blanks {input : List UInt8} (h : Json.StartsValue input) :
    scanFirstItem (blanks ++ input) = .ok (true, input) := by
  obtain ⟨octet, more, hstarts, rfl⟩ := h
  rw [scanFirstItem, skipBlanks_append hblanks, skipBlanks_of_not_blank hstarts.1]
  simp [hstarts.2]

/-- A comma leads to the next item. -/
theorem scanNextItem_comma {input : List UInt8} (h : Json.StartsValue input) :
    scanNextItem (Octet.comma :: (blanks ++ input)) = .ok (true, input) := by
  obtain ⟨octet, more, hstarts, rfl⟩ := h
  have hcomma : Octet.comma ≠ Octet.closeBracket := by decide
  rw [scanNextItem, skipBlanks_of_not_blank (by decide)]
  simp only [hcomma, if_false, if_true]
  rw [skipBlanks_append hblanks, skipBlanks_of_not_blank hstarts.1]
  simp [hstarts.2]

/-- A bracket ends the array. -/
theorem scanNextItem_bracket (rest : List UInt8) :
    scanNextItem (blanks ++ Octet.closeBracket :: rest) = .ok (false, rest) := by
  rw [scanNextItem, skipBlanks_append hblanks, skipBlanks_of_not_blank (by decide)]
  simp

/-- A brace ends the object. -/
theorem scanNextKey_brace (rest : List UInt8) :
    scanNextKey (blanks ++ Octet.closeBrace :: rest) = .ok (none, rest) := by
  rw [scanNextKey, skipBlanks_append hblanks, skipBlanks_of_not_blank (by decide)]
  simp

/-- A quoted key and the colon after it. -/
theorem scanKey_quoted (key : String) (rest : List UInt8) :
    scanKey ((key.toList.flatMap Json.escaped).flatMap String.utf8EncodeChar ++
      Octet.quote :: (blanks ++ Octet.colon :: rest)) = .ok (key, rest) := by
  rw [scanKey, scanString_quoted]
  simp only
  rw [skipBlanks_append hblanks, skipBlanks_of_not_blank (by decide)]
  simp

end Separators

/-- Octets announce the value of a key: the key between quotes and a colon, with
blanks around them. -/
inductive Json.Announces (key : String) : List UInt8 → Prop
  | intro {before after front : List UInt8}
      (hbefore : ∀ octet ∈ before, Octet.isBlank octet = true)
      (hafter : ∀ octet ∈ after, Octet.isBlank octet = true)
      (hfront : ∀ octet ∈ front, Octet.isBlank octet = true) :
      Announces key (before ++ (Utf8.encode (Json.quoted key) ++ (after ++ Octet.colon :: front)))

namespace Json.Announces

variable {key : String} {octets : List UInt8}

/-- A printed key announces its value. -/
theorem exists_layout (layout : Layout) (depth : Nat) (key text : String) :
    ∃ octets, Announces key octets ∧
      Utf8.encode (layout.lineStart depth ++ (quoted key ++ (layout.afterKey ++ text))) =
        octets ++ Utf8.encode text := by
  obtain ⟨front, hfront, hafter⟩ := layout.encode_afterKey
  have hnone : ∀ octet ∈ ([] : List UInt8), Octet.isBlank octet = true := nofun
  refine ⟨_, .intro (layout.isBlank_lineStart depth) hnone hfront, ?_⟩
  rw [Utf8.encode_append, Utf8.encode_append, Utf8.encode_append, hafter]
  simp only [List.append_assoc, List.nil_append, List.cons_append]

/-- The first key of an object is found where its value is announced. -/
theorem exists_scanFirstKey (h : Announces key octets) (rest : List UInt8) :
    ∃ blanks, (∀ octet ∈ blanks, Octet.isBlank octet = true) ∧
      scanFirstKey (octets ++ rest) = .ok (some key, blanks ++ rest) := by
  obtain ⟨hbefore, hafter, hfront⟩ := h
  rename_i front
  have hbrace : Octet.quote ≠ Octet.closeBrace := by decide
  refine ⟨front, hfront, ?_⟩
  rw [List.append_assoc, scanFirstKey, skipBlanks_append hbefore, encode_quoted]
  simp only [List.cons_append, List.append_assoc, List.nil_append]
  rw [skipBlanks_of_not_blank (by decide)]
  simp only [hbrace, if_false, if_true, scanKey_quoted hafter]

/-- So is the next key, after a comma. -/
theorem exists_scanNextKey (h : Announces key octets) (rest : List UInt8) :
    ∃ blanks, (∀ octet ∈ blanks, Octet.isBlank octet = true) ∧
      scanNextKey (Octet.comma :: (octets ++ rest)) = .ok (some key, blanks ++ rest) := by
  obtain ⟨hbefore, hafter, hfront⟩ := h
  rename_i front
  have hcomma : Octet.comma ≠ Octet.closeBrace := by decide
  refine ⟨front, hfront, ?_⟩
  rw [scanNextKey, skipBlanks_of_not_blank (by decide)]
  simp only [hcomma, if_false, if_true]
  rw [List.append_assoc, skipBlanks_append hbefore, encode_quoted]
  simp only [List.cons_append, List.append_assoc, List.nil_append]
  rw [skipBlanks_of_not_blank (by decide)]
  simp only [if_true, scanKey_quoted hafter]

end Json.Announces

/-! ## Scalars -/

/-- A value that starts with a digit or a minus sign is scanned as a number. -/
theorem scanScalar_of_startsNumber {octet : UInt8} (h : Json.StartsNumber octet)
    (more : List UInt8) :
    scanScalar (octet :: more) =
      (scanNumber (octet :: more)).map fun found => (.number found.1, found.2) := by
  have hn : octet ≠ 0x6E := h.ne (by decide) (by decide)
  have ht : octet ≠ 0x74 := h.ne (by decide) (by decide)
  have hf : octet ≠ 0x66 := h.ne (by decide) (by decide)
  have hquote : octet ≠ Octet.quote := h.ne (by decide) (by decide)
  have hnumber : octet = Octet.minus ∨ Octet.isDigit octet = true := h
  simp only [scanScalar, hn, ht, hf, hquote, hnumber, if_false, if_true]
  cases scanNumber (octet :: more) <;> rfl

/-- A number is scanned where a value starts with a digit or a minus sign. -/
theorem scanScalar_number {octet : UInt8} (h : Json.StartsNumber octet) {more after : List UInt8}
    {n : Number} (hscan : scanNumber (octet :: more) = .ok (n, after)) :
    scanScalar (octet :: more) = .ok (.number n, after) := by
  rw [scanScalar_of_startsNumber h, hscan]
  rfl

/-- A quoted text is a scalar. -/
theorem scanScalar_quoted (text : String) (rest : List UInt8) :
    scanScalar (Utf8.encode (Json.quoted text) ++ rest) = .ok (.string text, rest) := by
  have hn : Octet.quote ≠ 0x6E := by decide
  have ht : Octet.quote ≠ 0x74 := by decide
  have hf : Octet.quote ≠ 0x66 := by decide
  rw [encode_quoted, List.cons_append]
  simp only [scanScalar, hn, ht, hf, if_false, if_true, List.append_assoc, List.singleton_append,
    scanString_quoted]

/-! ## Where a number ends -/

/-- A blank does not go on with a number. -/
theorem endsNumber_of_isBlank {octet : UInt8} (h : Octet.isBlank octet = true) :
    Octet.isDigit octet = false ∧ octet ≠ Octet.point ∧ Octet.isExponentMark octet = false := by
  simp only [Octet.isBlank, Bool.or_eq_true, beq_iff_eq] at h
  rcases h with ((rfl | rfl) | rfl) | rfl <;> decide

/-- A number ends where a separator or the end of a container follows, perhaps
after blanks. -/
theorem numberEnds_blanks {blanks : List UInt8}
    (hblanks : ∀ octet ∈ blanks, Octet.isBlank octet = true) {octet : UInt8}
    (h : octet = Octet.comma ∨ octet = Octet.closeBracket ∨ octet = Octet.closeBrace)
    (more : List UInt8) : NumberEnds (blanks ++ octet :: more) := by
  intro first hfirst
  cases blanks with
  | nil =>
      obtain rfl := Option.some.inj hfirst
      rcases h with rfl | rfl | rfl <;> decide
  | cons blank rest =>
      obtain rfl := Option.some.inj hfirst
      exact endsNumber_of_isBlank (hblanks _ List.mem_cons_self)

theorem numberEnds_comma (more : List UInt8) : NumberEnds (Octet.comma :: more) := by
  have hnone : ∀ octet ∈ ([] : List UInt8), Octet.isBlank octet = true := nofun
  exact numberEnds_blanks hnone (Or.inl rfl) more

/-- After the last item comes the start of a line, which may be empty, and the bracket. -/
theorem encode_renderedItems_nil (layout : Json.Layout) (depth : Nat) :
    Utf8.encode (Json.renderedItems layout depth []) =
      Utf8.encode (layout.lineStart depth) ++ [Octet.closeBracket] := by
  rw [Json.renderedItems, Utf8.encode_append]
  rfl

theorem encode_renderedMembers_nil (layout : Json.Layout) (depth : Nat) :
    Utf8.encode (Json.renderedMembers layout depth []) =
      Utf8.encode (layout.lineStart depth) ++ [Octet.closeBrace] := by
  rw [Json.renderedMembers, Utf8.encode_append]
  rfl

/-- After an item there is a comma, a blank or a bracket: no number goes on there. -/
theorem numberEnds_renderedItems (layout : Json.Layout) (depth : Nat) (items : List Json)
    (rest : List UInt8) :
    NumberEnds (Utf8.encode (Json.renderedItems layout depth items) ++ rest) := by
  cases items with
  | nil =>
      rw [encode_renderedItems_nil, List.append_assoc]
      exact numberEnds_blanks (layout.isBlank_lineStart depth) (Or.inr (Or.inl rfl)) rest
  | cons item more =>
      rw [Json.renderedItems, Utf8.encode_mark_append Json.encode_comma]
      exact numberEnds_comma _

theorem numberEnds_renderedMembers (layout : Json.Layout) (depth : Nat)
    (members : List (String × Json)) (rest : List UInt8) :
    NumberEnds (Utf8.encode (Json.renderedMembers layout depth members) ++ rest) := by
  cases members with
  | nil =>
      rw [encode_renderedMembers_nil, List.append_assoc]
      exact numberEnds_blanks (layout.isBlank_lineStart depth) (Or.inr (Or.inr rfl)) rest
  | cons member more =>
      rw [Json.renderedMembers, Utf8.encode_mark_append Json.encode_comma]
      exact numberEnds_comma _

end SyntaxCensus
