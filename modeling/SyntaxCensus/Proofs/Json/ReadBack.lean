import SyntaxCensus.Proofs.Bindings
import SyntaxCensus.Proofs.Json.Layout

/-!
# Reading printed documents back

A well-formed value without doubles is read back from either of its printed
forms, by a reader of texts of any depth and by a reader of files that has room
for its containers.

Main definitions:

- `Json.height`: how many containers in a value are nested in one another.
- `Json.Fits`: a reader has room for a value inside containers that are open.

Main results:

- `Reading.run_rendered`: the machine reads a rendered value and holds it.
- `Json.read_rendered`: the document of a rendered value is that value.
-/

namespace SyntaxCensus

/-! ## Room for containers -/

namespace Json

mutual

/-- How many containers in a value are nested in one another. -/
def height : Json → Nat
  | .null | .bool _ | .number _ | .string _ => 0
  | .array items => heightItems items + 1
  | .object members => heightMembers members + 1

/-- The height of the highest item. -/
def heightItems : List Json → Nat
  | [] => 0
  | item :: rest => max item.height (heightItems rest)

/-- The height of the highest member value. -/
def heightMembers : List (String × Json) → Nat
  | [] => 0
  | (_, value) :: rest => max value.height (heightMembers rest)

end

/-- Within a bound on containers, if there is one, a number of open containers
leaves room for more of them. -/
def Fits (limit : Option Nat) (opened more : Nat) : Prop :=
  ∀ bound ∈ limit, opened + more ≤ bound

theorem Fits.mono {limit : Option Nat} {opened more opened' more' : Nat}
    (h : Fits limit opened more) (hle : opened' + more' ≤ opened + more) :
    Fits limit opened' more' :=
  fun bound hbound => Nat.le_trans hle (h bound hbound)

end Json

namespace Reading

/-! ## Steps of the machine -/

/-- A run goes on where its first step leads. -/
theorem run_awaiting {limit : Option Nat} {stack : List Frame} {input : List UInt8}
    {next : Reading} (h : start limit stack input = .ok next) :
    run limit (.awaiting stack input) = run limit next := by
  rw [run]
  split
  · rename_i hstop
    simp [h] at hstop
  · rename_i hnext
    rw [h, Except.ok.injEq] at hnext
    rw [hnext]

theorem run_awaiting_error {limit : Option Nat} {stack : List Frame} {input : List UInt8}
    {stop : Stop} (h : start limit stack input = .error stop) :
    run limit (.awaiting stack input) = .error stop := by
  rw [run]
  split
  · rename_i hstop
    exact congrArg Except.error (Except.error.inj (hstop.symm.trans h))
  · rename_i hnext
    rw [h] at hnext
    cases hnext

/-- A run goes on from a value inside a container. -/
theorem run_holding {limit : Option Nat} {frame : Frame} {stack : List Frame} {value : Json}
    {input : List UInt8} {next : Reading} (h : resume frame stack value input = .ok next) :
    run limit (.holding (frame :: stack) value input) = run limit next := by
  rw [run]
  split
  · rename_i hstop
    simp [h] at hstop
  · rename_i hnext
    rw [h, Except.ok.injEq] at hnext
    rw [hnext]

/-- What is read next depends on what follows the blanks. -/
theorem run_awaiting_congr (limit : Option Nat) (stack : List Frame) {input other : List UInt8}
    (h : skipBlanks input = skipBlanks other) :
    run limit (.awaiting stack input) = run limit (.awaiting stack other) := by
  have hstart : start limit stack input = start limit stack other := by
    rw [start, start, h]
  rw [run, run]
  split <;> split <;> simp_all

/-- How a container goes on depends on what follows the blanks. -/
theorem run_holding_congr (limit : Option Nat) (frame : Frame) (stack : List Frame) (value : Json)
    {input other : List UInt8} (h : skipBlanks input = skipBlanks other) :
    run limit (.holding (frame :: stack) value input) =
      run limit (.holding (frame :: stack) value other) := by
  have hresume : resume frame stack value input = resume frame stack value other := by
    cases frame with
    | array done => rw [resume, resume, scanNextItem, scanNextItem, h]
    | object done key => rw [resume, resume, scanNextKey, scanNextKey, h]
  rw [run, run]
  split <;> split <;> simp_all

/-- Blanks in front of a value are of no consequence. -/
theorem run_blanks (limit : Option Nat) (stack : List Frame) {blanks : List UInt8}
    (h : ∀ octet ∈ blanks, Octet.isBlank octet = true) (input : List UInt8) :
    run limit (.awaiting stack (blanks ++ input)) = run limit (.awaiting stack input) :=
  run_awaiting_congr limit stack (skipBlanks_append h input)

/-- A scalar that starts with none of the signs of a container is read and
held. -/
theorem run_scalar (limit : Option Nat) (stack : List Frame) {octet : UInt8}
    (hblank : Octet.isBlank octet = false) (hbracket : octet ≠ Octet.openBracket)
    (hbrace : octet ≠ Octet.openBrace) {more rest : List UInt8} {value : Json}
    (hscan : scanScalar (octet :: more) = .ok (value, rest)) :
    run limit (.awaiting stack (octet :: more)) = run limit (.holding stack value rest) := by
  apply run_awaiting
  rw [start, skipBlanks_of_not_blank hblank]
  simp only [hbracket, hbrace, if_false, hscan]

/-- There is room to open a container. -/
theorem isFull_of_fits {limit : Option Nat} {stack : List Frame} {more : Nat}
    (h : Json.Fits limit stack.length (more + 1)) : isFull limit stack = false := by
  cases limit with
  | none => rfl
  | some bound =>
      have := h bound rfl
      simp only [isFull, decide_eq_false_iff_not]
      omega

/-! ## Parts of a container -/

section Parts

variable {limit : Option Nat} {stack : List Frame}

section Blanks

variable {blanks : List UInt8} (hblanks : ∀ octet ∈ blanks, Octet.isBlank octet = true)
include hblanks

/-- A bracket opens an array, and its first item is read. -/
theorem run_openArray (hroom : isFull limit stack = false) {input : List UInt8}
    (hinput : Json.StartsValue input) :
    run limit (.awaiting stack (Octet.openBracket :: (blanks ++ input))) =
      run limit (.awaiting (.array [] :: stack) input) := by
  apply run_awaiting
  rw [start, skipBlanks_of_not_blank (by decide)]
  simp only [if_true, hroom, Bool.false_eq_true, if_false, scanFirstItem_blanks hblanks hinput]

/-- A comma ends an item, and the next one is read. -/
theorem run_nextItem (done : List Json) (value : Json) {input : List UInt8}
    (hinput : Json.StartsValue input) :
    run limit (.holding (.array done :: stack) value (Octet.comma :: (blanks ++ input))) =
      run limit (.awaiting (.array (value :: done) :: stack) input) := by
  apply run_holding
  simp only [resume, scanNextItem_comma hblanks hinput]

/-- A bracket ends an array, which is held then. -/
theorem run_closeArray (done : List Json) (value : Json) (rest : List UInt8) :
    run limit (.holding (.array done :: stack) value (blanks ++ Octet.closeBracket :: rest)) =
      run limit (.holding stack (.array (value :: done).reverse) rest) := by
  apply run_holding
  rw [resume, scanNextItem_bracket hblanks]

/-- A brace ends an object, which is held then. -/
theorem run_closeObject (done : List (String × Json)) (key : String) (value : Json)
    (rest : List UInt8) :
    run limit (.holding (.object done key :: stack) value (blanks ++ Octet.closeBrace :: rest)) =
      run limit (.holding stack (.ofBindings ((key, value) :: done).reverse) rest) := by
  apply run_holding
  rw [resume, scanNextKey_brace hblanks]

end Blanks

/-- A brace opens an object, and the value of its first key is read. -/
theorem run_openObject (hroom : isFull limit stack = false) {key : String} {octets : List UInt8}
    (hkey : Json.Announces key octets) (input : List UInt8) :
    run limit (.awaiting stack (Octet.openBrace :: (octets ++ input))) =
      run limit (.awaiting (.object [] key :: stack) input) := by
  obtain ⟨blanks, hblanks, hscan⟩ := hkey.exists_scanFirstKey input
  have hbrace : Octet.openBrace ≠ Octet.openBracket := by decide
  refine Eq.trans ?_ (run_blanks limit _ hblanks input)
  apply run_awaiting
  rw [start, skipBlanks_of_not_blank (by decide)]
  simp only [hbrace, if_true, hroom, Bool.false_eq_true, if_false, hscan]

/-- A comma ends a member, and the value of the next key is read. -/
theorem run_nextMember (done : List (String × Json)) (key : String) (value : Json)
    {next : String} {octets : List UInt8} (hnext : Json.Announces next octets)
    (input : List UInt8) :
    run limit (.holding (.object done key :: stack) value
        (Octet.comma :: (octets ++ input))) =
      run limit (.awaiting (.object ((key, value) :: done) next :: stack) input) := by
  obtain ⟨blanks, hblanks, hscan⟩ := hnext.exists_scanNextKey input
  refine Eq.trans ?_ (run_blanks limit _ hblanks input)
  apply run_holding
  simp only [resume, hscan]

end Parts

/-! ## Rendered values -/

mutual

/-- The machine reads a rendered value and holds it, with the same containers
open. -/
theorem run_rendered (layout : Json.Layout) (limit : Option Nat) (depth : Nat) (value : Json)
    (stack : List Frame) (rest : List UInt8) (hformed : value.WellFormed)
    (hwhole : value.HasWholeNumbers) (hfits : Json.Fits limit stack.length value.height)
    (hrest : NumberEnds rest) :
    run limit (.awaiting stack (Utf8.encode (value.rendered layout depth) ++ rest)) =
      run limit (.holding stack value rest) := by
  match value, hformed, hwhole, hfits with
  | .null, _, _, _ =>
      have hinput : Utf8.encode "null" ++ rest = 0x6E :: ([0x75, 0x6C, 0x6C] ++ rest) := rfl
      rw [Json.rendered, hinput]
      exact run_scalar limit stack (by decide) (by decide) (by decide) rfl
  | .bool true, _, _, _ =>
      have hinput : Utf8.encode "true" ++ rest = 0x74 :: ([0x72, 0x75, 0x65] ++ rest) := rfl
      rw [Json.rendered, hinput]
      exact run_scalar limit stack (by decide) (by decide) (by decide) rfl
  | .bool false, _, _, _ =>
      have hinput : Utf8.encode "false" ++ rest = 0x66 :: ([0x61, 0x6C, 0x73, 0x65] ++ rest) := rfl
      rw [Json.rendered, hinput]
      exact run_scalar limit stack (by decide) (by decide) (by decide) rfl
  | .number (.whole n), hformed, _, _ =>
      obtain ⟨octet, more, hstart, heq⟩ := Json.encode_number_eq_cons n
      have hscan : scanNumber (octet :: (more ++ rest)) = .ok (.whole n, rest) := by
        rw [← List.cons_append, ← heq]
        exact scanNumber_whole hformed hrest
      rw [Json.rendered, heq, List.cons_append]
      exact run_scalar limit stack hstart.starts.1 (hstart.ne (by decide) (by decide))
        (hstart.ne (by decide) (by decide)) (scanScalar_number hstart hscan)
  | .string text, _, _, _ =>
      have hscan := scanScalar_quoted text rest
      rw [encode_quoted, List.cons_append] at hscan
      rw [Json.rendered, encode_quoted, List.cons_append]
      exact run_scalar limit stack (by decide) (by decide) (by decide) hscan
  | .array [], _, _, hfits =>
      apply run_awaiting
      rw [Json.rendered]
      have hinput : Utf8.encode "[]" ++ rest = Octet.openBracket :: Octet.closeBracket :: rest :=
        rfl
      rw [hinput, start, skipBlanks_of_not_blank (by decide)]
      simp only [if_true, isFull_of_fits hfits, Bool.false_eq_true, if_false]
      rfl
  | .array (item :: items), hformed, hwhole, hfits =>
      rw [Json.rendered, Utf8.encode_mark_append Json.encode_openBracket, Utf8.encode_append,
        Utf8.encode_append, List.cons_append, List.append_assoc, List.append_assoc,
        run_openArray (layout.isBlank_lineStart (depth + 1)) (isFull_of_fits hfits)
          (Json.startsValue_rendered layout (depth + 1) hwhole.1 _),
        run_rendered layout limit (depth + 1) item (.array [] :: stack) _ hformed.1
          hwhole.1 (hfits.mono ?_) (numberEnds_renderedItems layout depth items rest),
        run_renderedItems layout limit depth items stack [] item rest hformed.2 hwhole.2
          (hfits.mono ?_)]
      · rfl
      · simp only [Json.height, Json.heightItems]
        omega
      · simp only [Json.height, Json.heightItems, List.length_cons]
        omega
  | .object [], _, _, hfits =>
      apply run_awaiting
      rw [Json.rendered]
      have hinput : Utf8.encode "\x7b\x7d" ++ rest =
          Octet.openBrace :: Octet.closeBrace :: rest := rfl
      have hbrace : Octet.openBrace ≠ Octet.openBracket := by decide
      rw [hinput, start, skipBlanks_of_not_blank (by decide)]
      simp only [hbrace, if_true, isFull_of_fits hfits, Bool.false_eq_true, if_false]
      rfl
  | .object ((key, item) :: members), hformed, hwhole, hfits =>
      obtain ⟨octets, hannounces, hencode⟩ := Json.Announces.exists_layout layout (depth + 1) key
        (item.rendered layout (depth + 1) ++ Json.renderedMembers layout depth members)
      rw [Json.rendered, Utf8.encode_mark_append Json.encode_openBrace, hencode,
        Utf8.encode_append, List.cons_append, List.append_assoc, List.append_assoc,
        run_openObject (isFull_of_fits hfits) hannounces,
        run_rendered layout limit (depth + 1) item (.object [] key :: stack) _ hformed.2.1
          hwhole.1 (hfits.mono ?_) (numberEnds_renderedMembers layout depth members rest),
        run_renderedMembers layout limit depth members stack [] key item rest hformed.2.2 hwhole.2
          (hfits.mono ?_)]
      · rw [Json.ofBindings, List.reverse_singleton, List.singleton_append,
          Keyed.ofBindings_of_sorted hformed.1]
      · simp only [Json.height, Json.heightMembers]
        omega
      · simp only [Json.height, Json.heightMembers, List.length_cons]
        omega

/-- With an item held, the machine reads the items that follow and holds the
array. -/
theorem run_renderedItems (layout : Json.Layout) (limit : Option Nat) (depth : Nat)
    (items : List Json) (stack : List Frame) (done : List Json) (value : Json)
    (rest : List UInt8) (hformed : Json.WellFormedItems items)
    (hwhole : Json.HaveWholeNumbers items)
    (hfits : Json.Fits limit stack.length (Json.heightItems items + 1)) :
    run limit (.holding (.array done :: stack) value
        (Utf8.encode (Json.renderedItems layout depth items) ++ rest)) =
      run limit (.holding stack (.array ((value :: done).reverse ++ items)) rest) := by
  match items, hformed, hwhole, hfits with
  | [], _, _, _ =>
      rw [encode_renderedItems_nil, List.append_assoc, List.singleton_append,
        run_closeArray (layout.isBlank_lineStart depth), List.append_nil]
  | item :: items, hformed, hwhole, hfits =>
      rw [Json.renderedItems, Utf8.encode_mark_append Json.encode_comma, Utf8.encode_append,
        Utf8.encode_append, List.cons_append, List.append_assoc, List.append_assoc,
        run_nextItem (layout.isBlank_lineStart (depth + 1)) done value
          (Json.startsValue_rendered layout (depth + 1) hwhole.1 _),
        run_rendered layout limit (depth + 1) item (.array (value :: done) :: stack) _
          hformed.1 hwhole.1 (hfits.mono ?_) (numberEnds_renderedItems layout depth items rest),
        run_renderedItems layout limit depth items stack (value :: done) item rest hformed.2
          hwhole.2 (hfits.mono ?_)]
      · simp
      · simp only [Json.heightItems]
        omega
      · simp only [Json.heightItems, List.length_cons]
        omega

/-- With the value of a member held, the machine reads the members that follow
and holds the object. -/
theorem run_renderedMembers (layout : Json.Layout) (limit : Option Nat) (depth : Nat)
    (members : List (String × Json)) (stack : List Frame) (done : List (String × Json))
    (key : String) (value : Json) (rest : List UInt8) (hformed : Json.WellFormedMembers members)
    (hwhole : Json.MembersHaveWholeNumbers members)
    (hfits : Json.Fits limit stack.length (Json.heightMembers members + 1)) :
    run limit (.holding (.object done key :: stack) value
        (Utf8.encode (Json.renderedMembers layout depth members) ++ rest)) =
      run limit
        (.holding stack (.ofBindings (((key, value) :: done).reverse ++ members)) rest) := by
  match members, hformed, hwhole, hfits with
  | [], _, _, _ =>
      rw [encode_renderedMembers_nil, List.append_assoc, List.singleton_append,
        run_closeObject (layout.isBlank_lineStart depth), List.append_nil]
  | (next, item) :: members, hformed, hwhole, hfits =>
      obtain ⟨octets, hannounces, hencode⟩ := Json.Announces.exists_layout layout (depth + 1) next
        (item.rendered layout (depth + 1) ++ Json.renderedMembers layout depth members)
      rw [Json.renderedMembers, Utf8.encode_mark_append Json.encode_comma, hencode,
        Utf8.encode_append, List.cons_append, List.append_assoc, List.append_assoc,
        run_nextMember done key value hannounces,
        run_rendered layout limit (depth + 1) item (.object ((key, value) :: done) next :: stack) _
          hformed.1 hwhole.1 (hfits.mono ?_) (numberEnds_renderedMembers layout depth members rest),
        run_renderedMembers layout limit depth members stack ((key, value) :: done) next item rest
          hformed.2 hwhole.2 (hfits.mono ?_)]
      · simp
      · simp only [Json.heightMembers]
        omega
      · simp only [Json.heightMembers, List.length_cons]
        omega

end

end Reading

/-! ## Documents -/

namespace Json

/-- A rendered value, perhaps with blanks after it, is read as that value by a
reader that has room for its containers. -/
theorem read_rendered (layout : Layout) (limit : Option Nat) {value : Json}
    (hformed : value.WellFormed) (hwhole : value.HasWholeNumbers)
    (hfits : Fits limit 0 value.height) {blanks : List UInt8}
    (hblanks : ∀ octet ∈ blanks, Octet.isBlank octet = true) :
    read limit (Utf8.encode (value.rendered layout 0) ++ blanks) = .ok value := by
  have hends : NumberEnds blanks := fun octet hoctet =>
    endsNumber_of_isBlank (hblanks octet (List.mem_of_mem_head? hoctet))
  have hskip : skipBlanks blanks = [] := by
    have h := skipBlanks_append hblanks []
    rwa [List.append_nil] at h
  rw [read, Reading.run_rendered layout limit 0 value [] blanks hformed hwhole hfits hends,
    Reading.run]
  simp only [hskip]

/-- A text is read back from either printed form. -/
theorem parse_rendered (layout : Layout) {value : Json} (hformed : value.WellFormed)
    (hwhole : value.HasWholeNumbers) : parse (value.rendered layout 0) = .ok value := by
  have hblanks : ∀ octet ∈ ([] : List UInt8), Octet.isBlank octet = true := nofun
  have hread := read_rendered layout none hformed hwhole nofun hblanks
  rw [List.append_nil] at hread
  rw [parse, hread]
  rfl

/-- A file that holds either printed form is read back, if its containers are
not nested too deeply. -/
theorem parseFile_rendered (layout : Layout) {value : Json} (hformed : value.WellFormed)
    (hwhole : value.HasWholeNumbers) (hheight : value.height ≤ fileDepth) {blanks : List UInt8}
    (hblanks : ∀ octet ∈ blanks, Octet.isBlank octet = true) :
    parseFile (Utf8.encode (value.rendered layout 0) ++ blanks) = .ok value := by
  have hfits : Fits (some fileDepth) 0 value.height := by
    intro bound hbound
    cases hbound
    omega
  rw [parseFile, read_rendered layout _ hformed hwhole hfits hblanks]
  rfl

end Json
end SyntaxCensus
