import SyntaxCensus.Proofs.Json.Continuation
import SyntaxCensus.Proofs.Json.Nesting

/-!
# Texts in containers

A document may be put into an array of its own or into an object with one more
member, with blanks wherever the grammar has them, and what comes out is a
document again.  So documents may be put into containers over and over, as deep
as one likes.

Main definitions:

- `Wrapper`: an array or an object around one value, as it is written.
- `Wrapper.textIn`, `Wrapper.valueIn`: a text and a value in containers.

Main results:

- `Json.parse_array`, `Json.parse_pair`: documents in one container.
- `Wrapper.parse_textIn`: documents in any number of containers.
- `Wrapper.length_le_nesting`: how deep such documents are nested.
-/

namespace SyntaxCensus

/-! ## Blanks in front of a value -/

/-- The octet after blanks is none. -/
theorem skipBlanks_eq_cons {input rest : List UInt8} {octet : UInt8}
    (h : skipBlanks input = octet :: rest) :
    Octet.isBlank octet = false ∧
      ∃ blanks, (∀ blank ∈ blanks, Octet.isBlank blank = true) ∧
        input = blanks ++ octet :: rest := by
  induction input with
  | nil => cases h
  | cons first tail ih =>
      rw [skipBlanks] at h
      split at h
      · rename_i hblank
        obtain ⟨hoctet, blanks, hblanks, rfl⟩ := ih h
        exact ⟨hoctet, first :: blanks, List.forall_mem_cons.mpr ⟨hblank, hblanks⟩, rfl⟩
      · rename_i hblank
        obtain ⟨rfl, rfl⟩ := List.cons.inj h
        exact ⟨Bool.eq_false_iff.mpr hblank, [], List.forall_mem_nil _, rfl⟩

/-- A value begins with an octet that neither is blank nor ends an array, perhaps
after blanks. -/
theorem Reading.exists_startsValue {stack : List Frame} {octets : List UInt8} {next : Reading}
    (h : start none stack octets = .ok next) :
    ∃ blanks input, (∀ blank ∈ blanks, Octet.isBlank blank = true) ∧ Json.StartsValue input ∧
      octets = blanks ++ input := by
  cases hskip : skipBlanks octets with
  | nil => simp [start, hskip] at h
  | cons octet rest =>
      obtain ⟨hoctet, blanks, hblanks, heq⟩ := skipBlanks_eq_cons hskip
      refine ⟨blanks, octet :: rest, hblanks, ⟨octet, rest, ⟨hoctet, ?_⟩, rfl⟩, heq⟩
      rintro rfl
      have hscalar : scanScalar (Octet.closeBracket :: rest) =
          .error (.next .valueExpected (Octet.closeBracket :: rest)) := rfl
      have hbracket : Octet.closeBracket ≠ Octet.openBracket := by decide
      have hbrace : Octet.closeBracket ≠ Octet.openBrace := by decide
      simp [start, hskip, hbracket, hbrace, hscalar] at h

/-! ## Documents inside open containers -/

namespace Reading

section Inside

variable {text : String} {value : Json} (hparse : Json.parse text = .ok value)
include hparse

/-- A document is read inside an open container, and the container goes on with
its value. -/
theorem run_inside (frame : Frame) (stack : List Frame) {more : List UInt8}
    (hmore : NumberEnds more) :
    run none (.awaiting (frame :: stack) (Utf8.encode text ++ more)) =
      run none (.holding (frame :: stack) value more) := by
  obtain ⟨rest, hrun, hskip⟩ := Json.read_eq_ok_iff.mp (Json.parse_eq_ok_iff.mp hparse)
  calc
    _ = run none ((awaiting [] (Utf8.encode text)).extended (frame :: stack) more) := rfl
    _ = run none (.holding (frame :: stack) value (rest ++ more)) :=
      run_extended (frame :: stack) hmore hrun
    _ = _ := run_holding_congr none frame stack value (skipBlanks_append_of_nil hskip more)

/-- A bracket opens an array in front of a document. -/
theorem run_openArray_document {blanks : List UInt8}
    (hblanks : ∀ octet ∈ blanks, Octet.isBlank octet = true) (stack : List Frame)
    (more : List UInt8) :
    run none (.awaiting stack (Octet.openBracket :: (blanks ++ (Utf8.encode text ++ more)))) =
      run none (.awaiting (.array [] :: stack) (Utf8.encode text ++ more)) := by
  obtain ⟨rest, hrun, -⟩ := Json.read_eq_ok_iff.mp (Json.parse_eq_ok_iff.mp hparse)
  obtain ⟨next, hstart⟩ : ∃ next, start none [] (Utf8.encode text) = .ok next := by
    cases hstart : start none [] (Utf8.encode text) with
    | error stop =>
        rw [run_awaiting_error hstart] at hrun
        cases hrun
    | ok next => exact ⟨next, rfl⟩
  obtain ⟨front, input, hfront, ⟨octet, tail, hstarts, rfl⟩, heq⟩ := exists_startsValue hstart
  have hinput : Json.StartsValue (octet :: tail ++ more) := ⟨octet, tail ++ more, hstarts, rfl⟩
  rw [heq, List.append_assoc, run_blanks none (.array [] :: stack) hfront, ← List.append_assoc]
  exact run_openArray (List.forall_mem_append.mpr ⟨hblanks, hfront⟩) rfl hinput

end Inside
end Reading

/-! ## Containers with blanks -/

/-- A text of blanks. -/
structure Gap where
  text : String
  isBlank : ∀ octet ∈ Utf8.encode text, Octet.isBlank octet = true

/-- The blanks around the key and the value of a member. -/
structure Spacing where
  beforeKey : Gap
  afterKey : Gap
  beforeValue : Gap
  afterValue : Gap

namespace Spacing

/-- A member as it is written, its key between quotes. -/
def member (spacing : Spacing) (key value : String) : String :=
  spacing.beforeKey.text ++ (Json.quoted key ++ (spacing.afterKey.text ++ (":" ++
    (spacing.beforeValue.text ++ (value ++ spacing.afterValue.text)))))

/-- A member announces the value of its key, which blanks may follow. -/
theorem exists_encode_member (spacing : Spacing) (key value : String) :
    ∃ octets, Json.Announces key octets ∧
      Utf8.encode (spacing.member key value) =
        octets ++ (Utf8.encode value ++ Utf8.encode spacing.afterValue.text) := by
  have hcolon : Utf8.encode ":" = [Octet.colon] := by decide
  refine ⟨_, .intro spacing.beforeKey.isBlank spacing.afterKey.isBlank
    spacing.beforeValue.isBlank, ?_⟩
  simp only [member, Utf8.encode_append, hcolon, List.append_assoc, List.cons_append,
    List.nil_append]

section Steps

variable (spacing : Spacing) {text : String} {value : Json} (hparse : Json.parse text = .ok value)
  {octet : UInt8}
  (hoctet : octet = Octet.comma ∨ octet = Octet.closeBracket ∨ octet = Octet.closeBrace)
include hparse hoctet

/-- The value of a member is read, and the blanks after it are skipped. -/
theorem run_value (frame : Frame) (stack : List Frame) (more : List UInt8) :
    Reading.run none (.awaiting (frame :: stack)
        (Utf8.encode text ++ (Utf8.encode spacing.afterValue.text ++ octet :: more))) =
      Reading.run none (.holding (frame :: stack) value (octet :: more)) := by
  have hends := numberEnds_blanks spacing.afterValue.isBlank hoctet more
  exact (Reading.run_inside hparse frame stack hends).trans
    (Reading.run_holding_congr none frame stack value
      (skipBlanks_append spacing.afterValue.isBlank _))

/-- After the brace of an object its first member is read. -/
theorem run_first (key : String) (stack : List Frame) (more : List UInt8) :
    Reading.run none (.awaiting stack
        (Octet.openBrace :: (Utf8.encode (spacing.member key text) ++ octet :: more))) =
      Reading.run none (.holding (.object [] key :: stack) value (octet :: more)) := by
  obtain ⟨octets, hannounces, hencode⟩ := spacing.exists_encode_member key text
  rw [hencode, List.append_assoc, List.append_assoc, Reading.run_openObject rfl hannounces]
  exact run_value spacing hparse hoctet _ _ _

/-- After a comma the next member is read. -/
theorem run_next (key : String) (stack : List Frame) (done : List (String × Json))
    (last : String) (held : Json) (more : List UInt8) :
    Reading.run none (.holding (.object done last :: stack) held
        (Octet.comma :: (Utf8.encode (spacing.member key text) ++ octet :: more))) =
      Reading.run none
        (.holding (.object ((last, held) :: done) key :: stack) value (octet :: more)) := by
  obtain ⟨octets, hannounces, hencode⟩ := spacing.exists_encode_member key text
  rw [hencode, List.append_assoc, List.append_assoc,
    Reading.run_nextMember done last held hannounces]
  exact run_value spacing hparse hoctet _ _ _

end Steps

end Spacing

namespace Json

/-- A document in brackets is an array of one item. -/
theorem parse_array (before after : Gap) {text : String} {value : Json}
    (h : parse text = .ok value) :
    parse ("[" ++ (before.text ++ (text ++ (after.text ++ "]")))) = .ok (.array [value]) := by
  have hmark : Utf8.encode "]" = [Octet.closeBracket] := by decide
  have hends : NumberEnds (Utf8.encode after.text ++ [Octet.closeBracket]) :=
    numberEnds_blanks after.isBlank (.inr (.inl rfl)) []
  refine parse_eq_ok_iff.mpr (read_eq_ok_iff.mpr ⟨[], ?_, rfl⟩)
  rw [Utf8.encode_mark_append encode_openBracket, Utf8.encode_append, Utf8.encode_append,
    Utf8.encode_append, hmark, Reading.run_openArray_document h before.isBlank,
    Reading.run_inside h _ _ hends, Reading.run_closeArray after.isBlank, Reading.run]
  rfl

/-- Two documents under keys in braces are an object with two members. -/
theorem parse_pair (first second : Spacing) {key next text other : String} {value held : Json}
    (h : parse text = .ok value) (hother : parse other = .ok held) :
    parse ("\x7b" ++ (first.member key text ++ ("," ++ (second.member next other ++ "\x7d")))) =
      .ok (.ofBindings [(key, value), (next, held)]) := by
  have hmark : Utf8.encode "\x7d" = [Octet.closeBrace] := by decide
  have hnone : ∀ octet ∈ ([] : List UInt8), Octet.isBlank octet = true := List.forall_mem_nil _
  refine parse_eq_ok_iff.mpr (read_eq_ok_iff.mpr ⟨[], ?_, rfl⟩)
  rw [Utf8.encode_mark_append encode_openBrace, Utf8.encode_append,
    Utf8.encode_mark_append encode_comma, Utf8.encode_append, hmark,
    first.run_first h (.inl rfl), second.run_next hother (.inr (.inr rfl))]
  refine (Reading.run_closeObject hnone _ _ _ _).trans ?_
  rw [Reading.run]
  rfl

/-- A text between quotes is a document. -/
theorem parse_quoted (text : String) : parse (quoted text) = .ok (.string text) := by
  have hprinted : quoted text = rendered .compact 0 (.string text) := by
    rw [rendered]
  rw [hprinted]
  exact parse_rendered .compact trivial trivial

end Json

/-! ## Any number of containers -/

/-- A container around one value: an array, or an object whose other member has a
text under the marker.  Either member may come first. -/
inductive Wrapper where
  | array (before after : Gap)
  | node (kind : String) (markerFirst : Bool) (forMarker forBody : Spacing)

namespace Wrapper

/-- A text in a container, in an object under the key of the body. -/
def text (marker body inner : String) : Wrapper → String
  | .array before after => "[" ++ (before.text ++ (inner ++ (after.text ++ "]")))
  | .node kind true forMarker forBody =>
      "\x7b" ++ (forMarker.member marker (Json.quoted kind) ++
        ("," ++ (forBody.member body inner ++ "\x7d")))
  | .node kind false forMarker forBody =>
      "\x7b" ++ (forBody.member body inner ++
        ("," ++ (forMarker.member marker (Json.quoted kind) ++ "\x7d")))

/-- A value in a container. -/
def value (marker body : String) (inner : Json) : Wrapper → Json
  | .array _ _ => .array [inner]
  | .node kind _ _ _ => .ofBindings [(marker, .string kind), (body, inner)]

/-- The kind that the text under the marker names, if it is not empty. -/
def kind? : Wrapper → Option String
  | .array _ _ => none
  | .node kind _ _ _ => if kind.isEmpty then none else some kind

/-- A text in containers, the first one outermost. -/
def textIn (marker body : String) (wrappers : List Wrapper) (inner : String) : String :=
  wrappers.foldr (fun wrapper text => wrapper.text marker body text) inner

/-- A value in containers, the first one outermost. -/
def valueIn (marker body : String) (wrappers : List Wrapper) (inner : Json) : Json :=
  wrappers.foldr (fun wrapper value => wrapper.value marker body value) inner

section Documents

variable {marker body : String} (hne : body ≠ marker)
include hne

/-- A document in a container is a document. -/
theorem parse_text (wrapper : Wrapper) {inner : String} {value : Json}
    (h : Json.parse inner = .ok value) :
    Json.parse (wrapper.text marker body inner) = .ok (wrapper.value marker body value) := by
  match wrapper with
  | .array before after => exact Json.parse_array before after h
  | .node kind true forMarker forBody =>
      exact Json.parse_pair forMarker forBody (Json.parse_quoted kind) h
  | .node kind false forMarker forBody =>
      rw [Wrapper.value, Json.ofBindings, Keyed.ofBindings_swap (Ne.symm hne)]
      exact Json.parse_pair forBody forMarker h (Json.parse_quoted kind)

/-- A document in any number of containers is a document. -/
theorem parse_textIn (wrappers : List Wrapper) {inner : String} {value : Json}
    (h : Json.parse inner = .ok value) :
    Json.parse (textIn marker body wrappers inner) = .ok (valueIn marker body wrappers value) := by
  induction wrappers with
  | nil => exact h
  | cons wrapper rest ih => exact parse_text hne wrapper ih

omit hne in
/-- A value in a container is nested one container deeper. -/
theorem height_lt (wrapper : Wrapper) (inner : Json) :
    inner.height < (wrapper.value marker body inner).height := by
  cases wrapper with
  | array before after =>
      simp only [value, Json.height, Json.heightItems]
      omega
  | node kind markerFirst forMarker forBody =>
      have hlookup : Keyed.lookup body (Keyed.ofBindings
          [(marker, .string kind), (body, inner)]) = some inner := by
        rw [Keyed.lookup_ofBindings_pair, if_pos rfl]
      rw [value, Json.ofBindings, Json.height, Nat.lt_succ_iff]
      exact Json.heightMembers_le_iff.mp (Nat.le_refl _) _ (Keyed.mem_of_lookup hlookup)

/-- A document in containers nests at least these. -/
theorem length_le_nesting (wrappers : List Wrapper) {inner : String} {value : Json}
    (h : Json.parse inner = .ok value) :
    wrappers.length ≤ Json.nesting (Utf8.encode (textIn marker body wrappers inner)) := by
  have hheight : wrappers.length ≤ (valueIn marker body wrappers value).height := by
    induction wrappers with
    | nil => exact Nat.zero_le _
    | cons wrapper rest ih => exact Nat.lt_of_le_of_lt ih (height_lt wrapper _)
  have hread := Json.parse_eq_ok_iff.mp (parse_textIn hne wrappers h)
  exact Nat.le_trans hheight (Json.height_le_nesting hread)

end Documents
end Wrapper
end SyntaxCensus
