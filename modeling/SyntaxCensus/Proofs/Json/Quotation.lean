import SyntaxCensus.Proofs.Json.Reading
import SyntaxCensus.Proofs.Text.Utf8

/-!
# What stands between quotes

Outside the quotes of its texts a document has octets of the first half only.
Whether an octet stands between quotes depends on the octets before it, whatever
they are part of: a quote begins or ends a text, and within a text the octet
after a backslash is taken as it is.  The scanners open and close no container;
one is opened or closed by an octet that a step of the machine looks for.

Main definitions:

- `Quotation`: where an octet stands.
- `Quotation.Passes`: octets that a reader uses up, from one place to another,
  with no octet of the second half outside quotes.
- `Quotation.Level`: so it does without an octet that opens or closes a
  container.
- `Reading.Begins`, `Reading.GoesOn`: what steps of the machine use up.

Main results:

- `level_scanString`, `level_scanNumber`: what the scanners use up.
- `Reading.begins_of_start`, `Reading.goesOn_of_resume`: every step is one of a
  few.
- `Reading.passes_run`: what runs of the machine use up.
- `Json.lt_of_outside`: the octets of a document that stand outside quotes.
-/

namespace SyntaxCensus

/-! ## Octets of the first half -/

namespace Octet

/-- An octet that opens a container. -/
def isOpening (octet : UInt8) : Bool :=
  octet == openBracket || octet == openBrace

/-- An octet that closes a container. -/
def isClosing (octet : UInt8) : Bool :=
  octet == closeBracket || octet == closeBrace

/-- An octet that opens or closes a container. -/
def isContainerMark (octet : UInt8) : Bool :=
  isOpening octet || isClosing octet

/-- An octet of the first half that begins neither a text nor a container, nor
ends one. -/
def isNeutral (octet : UInt8) : Bool :=
  decide (octet < 0x80) && octet != quote && !isContainerMark octet

theorem isContainerMark_of_isOpening {octet : UInt8} (h : isOpening octet = true) :
    isContainerMark octet = true := by
  rw [isContainerMark, h, Bool.true_or]

theorem isContainerMark_of_isClosing {octet : UInt8} (h : isClosing octet = true) :
    isContainerMark octet = true := by
  rw [isContainerMark, h, Bool.or_true]

theorem neutral_of_isBlank {octet : UInt8} (h : isBlank octet = true) :
    isNeutral octet = true := by
  simp only [isBlank, Bool.or_eq_true, beq_iff_eq] at h
  rcases h with ((rfl | rfl) | rfl) | rfl <;> decide

/-- A digit is of the first half, and no quote, bracket or brace. -/
theorem neutral_of_digit? {octet : UInt8} {digit : Nat} (h : digit? octet = some digit) :
    isNeutral octet = true := by
  have hother {mark : UInt8} (hmark : digit? mark = none) : octet ≠ mark := by
    rintro rfl
    rw [hmark] at h
    cases h
  have hascii : octet < 0x80 := by
    unfold digit? at h
    split at h
    · rename_i hrange
      exact UInt8.lt_of_le_of_lt hrange.2 (by decide)
    · cases h
  have hquote : octet ≠ quote := hother (by decide)
  have hbrackets : octet ≠ openBracket ∧ octet ≠ closeBracket :=
    ⟨hother (by decide), hother (by decide)⟩
  have hbraces : octet ≠ openBrace ∧ octet ≠ closeBrace :=
    ⟨hother (by decide), hother (by decide)⟩
  simp [isNeutral, isContainerMark, isOpening, isClosing, hascii, hquote, hbrackets, hbraces]

theorem neutral_of_isDigit {octet : UInt8} (h : isDigit octet = true) :
    isNeutral octet = true := by
  obtain ⟨digit, hdigit⟩ := Option.isSome_iff_exists.mp h
  exact neutral_of_digit? hdigit

theorem neutral_of_isExponentMark {octet : UInt8} (h : isExponentMark octet = true) :
    isNeutral octet = true := by
  simp only [isExponentMark, Bool.or_eq_true, beq_iff_eq] at h
  rcases h with rfl | rfl <;> decide

/-- A hexadecimal digit has no meaning of its own between quotes. -/
theorem inner_of_hexDigit? {octet : UInt8} {digit : Nat} (h : hexDigit? octet = some digit) :
    octet ≠ quote ∧ octet ≠ backslash := by
  have hquote : hexDigit? quote = none := by decide
  have hbackslash : hexDigit? backslash = none := by decide
  refine ⟨?_, ?_⟩
  · rintro rfl
    rw [hquote] at h
    cases h
  · rintro rfl
    rw [hbackslash] at h
    cases h

end Octet

/-! ## Places -/

/-- Where an octet of a document stands: outside quotes, between quotes, or
between quotes after a backslash. -/
inductive Quotation where
  | outside
  | inside
  | escaped
  deriving DecidableEq, Repr

namespace Quotation

/-- Where the octet after an octet stands. -/
def after (place : Quotation) (octet : UInt8) : Quotation :=
  match place with
  | .outside => if octet = Octet.quote then .inside else .outside
  | .inside =>
      if octet = Octet.quote then .outside
      else if octet = Octet.backslash then .escaped
      else .inside
  | .escaped => .inside

/-- Where the octet after octets stands. -/
def afterAll (place : Quotation) (octets : List UInt8) : Quotation :=
  octets.foldl after place

/-- A reader gets from a place with an input to another place with what is left
of the input, and every octet of the second half that it uses up stands between
quotes. -/
inductive Passes : Quotation → List UInt8 → Quotation → List UInt8 → Prop
  | here (place : Quotation) (input : List UInt8) : Passes place input place input
  | octet {place last : Quotation} {octet : UInt8} {input rest : List UInt8}
      (enclosed : place = .outside → octet < 0x80)
      (next : Passes (place.after octet) input last rest) :
      Passes place (octet :: input) last rest

namespace Passes

variable {first middle last : Quotation} {input between rest : List UInt8}

/-- Two stretches of input one after the other. -/
theorem trans (h : Passes first input middle between) (next : Passes middle between last rest) :
    Passes first input last rest := by
  induction h with
  | here place input => exact next
  | octet enclosed _ ih => exact .octet enclosed (ih next)

/-- An octet outside quotes that was used up is of the first half. -/
theorem lt_of_outside {octet : UInt8} {front back : List UInt8}
    (h : Passes first (front ++ octet :: back) last [])
    (houtside : first.afterAll front = .outside) : octet < 0x80 := by
  induction front generalizing first with
  | nil =>
      cases h with
      | octet enclosed _ => exact enclosed houtside
  | cons lead more ih =>
      cases h with
      | octet _ next => exact ih next houtside

end Passes

/-- A reader gets from a place with an input to another place with what is left
of the input, and every octet that it uses up outside quotes is of the first half
and neither opens nor closes a container. -/
inductive Level : Quotation → List UInt8 → Quotation → List UInt8 → Prop
  | here (place : Quotation) (input : List UInt8) : Level place input place input
  | octet {place last : Quotation} {octet : UInt8} {input rest : List UInt8}
      (enclosed : place = .outside → octet < 0x80 ∧ Octet.isContainerMark octet = false)
      (next : Level (place.after octet) input last rest) :
      Level place (octet :: input) last rest

namespace Level

variable {first middle last : Quotation} {input between rest : List UInt8}

/-- Input that is used up on one level is passed. -/
theorem passes (h : Level first input last rest) : Passes first input last rest := by
  induction h with
  | here place input => exact .here place input
  | octet enclosed _ ih => exact .octet (fun houtside => (enclosed houtside).1) ih

/-- Two stretches of input one after the other. -/
theorem trans (h : Level first input middle between) (next : Level middle between last rest) :
    Level first input last rest := by
  induction h with
  | here place input => exact next
  | octet enclosed _ ih => exact .octet enclosed (ih next)

/-- A neutral octet outside quotes. -/
theorem neutral {octet : UInt8} (hneutral : Octet.isNeutral octet = true)
    (next : Level .outside input last rest) : Level .outside (octet :: input) last rest := by
  simp only [Octet.isNeutral, Bool.and_eq_true, decide_eq_true_eq, bne_iff_ne,
    Bool.not_eq_true'] at hneutral
  obtain ⟨⟨hascii, hquote⟩, hmark⟩ := hneutral
  refine .octet (fun _ => ⟨hascii, hmark⟩) ?_
  rwa [after, if_neg hquote]

/-- A quote outside quotes begins a text. -/
theorem quote (next : Level .inside input last rest) :
    Level .outside (Octet.quote :: input) last rest :=
  .octet (fun _ => ⟨by decide, by decide⟩) next

/-- A quote between quotes ends the text. -/
theorem endQuote (next : Level .outside input last rest) :
    Level .inside (Octet.quote :: input) last rest :=
  .octet (fun h => by cases h) next

/-- An octet between quotes, other than a quote and a backslash. -/
theorem inner {octet : UInt8} (hinner : octet ≠ Octet.quote ∧ octet ≠ Octet.backslash)
    (next : Level .inside input last rest) : Level .inside (octet :: input) last rest := by
  refine .octet (fun h => by cases h) ?_
  rwa [after, if_neg hinner.1, if_neg hinner.2]

/-- A backslash between quotes. -/
theorem backslash (next : Level .escaped input last rest) :
    Level .inside (Octet.backslash :: input) last rest :=
  .octet (fun h => by cases h) next

/-- Any octet after a backslash. -/
theorem escape {octet : UInt8} (next : Level .inside input last rest) :
    Level .escaped (octet :: input) last rest :=
  .octet (fun h => by cases h) next

end Level
end Quotation

open Quotation (Passes Level)

/-! ## Blanks and words -/

/-- Blanks are skipped outside quotes. -/
theorem level_skipBlanks (input : List UInt8) :
    Level .outside input .outside (skipBlanks input) := by
  induction input with
  | nil => exact .here _ _
  | cons octet rest ih =>
      rw [skipBlanks]
      split
      · rename_i hblank
        exact .neutral (Octet.neutral_of_isBlank hblank) ih
      · exact .here _ _

/-- What is used up after blanks. -/
theorem level_of_skipBlanks {input more rest : List UInt8} {octet : UInt8} {last : Quotation}
    (h : skipBlanks input = octet :: more)
    (next : Level .outside (octet :: more) last rest) : Level .outside input last rest :=
  (h ▸ level_skipBlanks input).trans next

/-- A word of neutral octets is used up outside quotes. -/
theorem level_scanWord {word input rest : List UInt8}
    (hword : word.all Octet.isNeutral = true)
    (h : scanWord word input = .ok rest) : Level .outside input .outside rest := by
  induction word generalizing input with
  | nil =>
      obtain rfl := Except.ok.inj h
      exact .here _ _
  | cons expected word ih =>
      rw [List.all_cons, Bool.and_eq_true] at hword
      obtain ⟨hneutral, hmore⟩ := hword
      cases input with
      | nil => cases h
      | cons octet tail =>
          rw [scanWord] at h
          split at h
          · rename_i heq
            subst heq
            exact .neutral hneutral (ih hmore h)
          · cases h

/-! ## Strings -/

/-- Hexadecimal digits are used up between quotes. -/
theorem level_scanHex {input rest : List UInt8} {n : Nat} (h : scanHex input = .ok (n, rest)) :
    Level .inside input .inside rest := by
  unfold scanHex at h
  split at h
  · split at h
    · rename_i ha hb hc hd
      obtain ⟨_, rfl⟩ := Prod.mk.inj (Except.ok.inj h)
      have ha := Octet.inner_of_hexDigit? ha
      have hb := Octet.inner_of_hexDigit? hb
      have hc := Octet.inner_of_hexDigit? hc
      have hd := Octet.inner_of_hexDigit? hd
      exact .inner ha (.inner hb (.inner hc (.inner hd (.here _ _))))
    · cases h
  · cases h

/-- The second half of a pair is a backslash with one octet, and digits. -/
theorem level_scanLowSurrogate {high : Nat} {input rest octets : List UInt8}
    (h : scanLowSurrogate high input = .ok (octets, rest)) :
    Level .inside input .inside rest := by
  unfold scanLowSurrogate at h
  split at h
  · cases h
  · split at h
    · cases h
    · rename_i hfirst
      obtain rfl := Decidable.not_not.mp hfirst
      split at h
      · cases h
      · split at h
        · cases h
        · split at h
          · cases h
          · rename_i hhex
            split at h
            · obtain ⟨_, rfl⟩ := Prod.mk.inj (Except.ok.inj h)
              exact .backslash (.escape (level_scanHex hhex))
            · cases h

theorem level_scanCodePoint {input rest octets : List UInt8}
    (h : scanCodePoint input = .ok (octets, rest)) : Level .inside input .inside rest := by
  unfold scanCodePoint at h
  split at h
  · cases h
  · rename_i hhex
    split at h
    · cases h
    · split at h
      · exact (level_scanHex hhex).trans (level_scanLowSurrogate h)
      · obtain ⟨_, rfl⟩ := Prod.mk.inj (Except.ok.inj h)
        exact level_scanHex hhex

/-- An escape is used up after its backslash. -/
theorem level_scanEscape {input rest octets : List UInt8}
    (h : scanEscape input = .ok (octets, rest)) : Level .escaped input .inside rest := by
  unfold scanEscape at h
  split at h
  · cases h
  · split at h
    · obtain ⟨_, rfl⟩ := Prod.mk.inj (Except.ok.inj h)
      exact .escape (.here _ _)
    · split at h
      · exact .escape (level_scanCodePoint h)
      · cases h

/-- The first quote that is no part of an escape ends the text. -/
theorem level_scanStringOnto {content input rest : List UInt8} {text : String}
    (h : scanStringOnto content input = .ok (text, rest)) : Level .inside input .outside rest := by
  fun_induction scanStringOnto content input with
  | case1 => cases h
  | case2 =>
      unfold finishString at h
      split at h
      · obtain ⟨_, rfl⟩ := Prod.mk.inj (Except.ok.inj h)
        exact .endQuote (.here _ _)
      · cases h
  | case3 => cases h
  | case4 content tail octets after hescape _ ih =>
      exact .backslash ((level_scanEscape hescape).trans (ih h))
  | case5 => cases h
  | case6 content octet tail hquote hbackslash _ ih => exact .inner ⟨hquote, hbackslash⟩ (ih h)

/-- A string is used up from its opening quote on, its closing quote included. -/
theorem level_scanString {input rest : List UInt8} {text : String}
    (h : scanString input = .ok (text, rest)) : Level .inside input .outside rest :=
  level_scanStringOnto h

/-! ## Numbers -/

theorem level_dropDigits (input : List UInt8) :
    Level .outside input .outside (dropDigits input) := by
  induction input with
  | nil => exact .here _ _
  | cons octet rest ih =>
      rw [dropDigits, List.dropWhile_cons]
      split
      · rename_i hdigit
        exact .neutral (Octet.neutral_of_isDigit hdigit) ih
      · exact .here _ _

theorem level_takeDigits (significand count : Nat) (input : List UInt8) :
    Level .outside input .outside (takeDigits significand count input).rest := by
  induction input generalizing significand count with
  | nil => exact .here _ _
  | cons octet rest ih =>
      rw [takeDigits]
      split
      · rename_i hlonger
        obtain ⟨digit, hdigit, _⟩ := Option.bind_eq_some_iff.mp hlonger
        exact .neutral (Octet.neutral_of_digit? hdigit) (ih _ _)
      · exact .here _ _

/-- The digits of an exponent are used up, also where it is too large. -/
theorem level_takeExponent {exponent : Nat} {input rest : List UInt8}
    (h : takeExponent exponent input = .error rest ∨
      ∃ total, takeExponent exponent input = .ok (total, rest)) :
    Level .outside input .outside rest := by
  induction input generalizing exponent with
  | nil =>
      rcases h with h | ⟨total, h⟩
      · cases h
      · obtain ⟨_, rfl⟩ := Prod.mk.inj (Except.ok.inj h)
        exact .here _ _
  | cons octet tail ih =>
      rw [takeExponent] at h
      cases hdigit : Octet.digit? octet with
      | none =>
          simp only [hdigit] at h
          rcases h with h | ⟨total, h⟩
          · cases h
          · obtain ⟨_, rfl⟩ := Prod.mk.inj (Except.ok.inj h)
            exact .here _ _
      | some digit =>
          have hneutral := Octet.neutral_of_digit? hdigit
          simp only [hdigit] at h
          split at h
          · exact .neutral hneutral (ih h)
          · rcases h with h | ⟨total, h⟩
            · obtain rfl := Except.error.inj h
              exact .neutral hneutral (.here _ _)
            · cases h

theorem level_scanSign (input : List UInt8) :
    Level .outside input .outside (scanSign input).2 := by
  unfold scanSign
  split
  · split
    · rename_i hplus
      subst hplus
      exact .neutral (by decide) (.here _ _)
    · split
      · rename_i hminus
        subst hminus
        exact .neutral (by decide) (.here _ _)
      · exact .here _ _
  · exact .here _ _

section Scanned

variable {negative : Bool} {significand : Nat} {input rest : List UInt8} {n : Number}

/-- An exponent is its mark, a sign and digits. -/
theorem level_scanExponent {scale : Int}
    (h : scanExponent negative significand scale input = .ok (n, rest)) :
    Level .outside input .outside rest := by
  have hsign := level_scanSign input
  unfold scanExponent at h
  split at h
  · cases h
  · rename_i down octet tail hsplit
    rw [hsplit] at hsign
    refine hsign.trans ?_
    split at h
    · cases h
    · rename_i first hdigit
      refine .neutral (Octet.neutral_of_digit? hdigit) ?_
      split at h
      · rename_i hexponent
        obtain rfl := scaledNumber_rest h
        exact level_takeExponent (.inr ⟨_, hexponent⟩)
      · rename_i hexponent
        split at h
        · cases h
        · obtain ⟨_, rfl⟩ := Prod.mk.inj (Except.ok.inj h)
          exact (level_takeExponent (.inl hexponent)).trans (level_dropDigits _)

theorem level_scanScale {scale : Int}
    (h : scanScale negative significand scale input = .ok (n, rest)) :
    Level .outside input .outside rest := by
  unfold scanScale at h
  split at h
  · obtain rfl := scaledNumber_rest h
    exact .here _ _
  · split at h
    · rename_i hmark
      exact .neutral (Octet.neutral_of_isExponentMark hmark)
        (level_scanExponent h)
    · obtain rfl := scaledNumber_rest h
      exact .here _ _

/-- A fraction is a point and digits. -/
theorem level_scanFraction {scale : Int}
    (h : scanFraction negative significand scale input = .ok (n, rest)) :
    Level .outside input .outside rest := by
  simp only [scanFraction] at h
  split at h
  · cases h
  · exact (level_takeDigits significand 0 input).trans
      ((level_dropDigits _).trans (level_scanScale h))

theorem level_scanAfterWhole {left : Nat}
    (h : scanAfterWhole negative significand left input = .ok (n, rest)) :
    Level .outside input .outside rest := by
  unfold scanAfterWhole at h
  split at h
  · split at h
    · obtain ⟨_, rfl⟩ := Prod.mk.inj (Except.ok.inj h)
      exact .here _ _
    · obtain rfl := scaledNumber_rest h
      exact .here _ _
  · split at h
    · rename_i hpoint
      subst hpoint
      exact .neutral (by decide) (level_scanFraction h)
    · split at h
      · rename_i hmark
        exact .neutral (Octet.neutral_of_isExponentMark hmark) (level_scanExponent h)
      · split at h
        · obtain ⟨_, rfl⟩ := Prod.mk.inj (Except.ok.inj h)
          exact .here _ _
        · obtain rfl := scaledNumber_rest h
          exact .here _ _

theorem level_scanMagnitude (h : scanMagnitude negative input = .ok (n, rest)) :
    Level .outside input .outside rest := by
  unfold scanMagnitude at h
  split at h
  · cases h
  · split at h
    · cases h
    · rename_i hzero
      have hneutral := Octet.neutral_of_digit? hzero
      split at h
      · cases h
      · exact .neutral hneutral (level_scanAfterWhole h)
    · rename_i first hfirst
      have hneutral := Octet.neutral_of_digit? hfirst
      exact .neutral hneutral ((level_takeDigits (first + 1) 0 _).trans
        ((level_dropDigits _).trans (level_scanAfterWhole h)))

/-- A number is used up outside quotes. -/
theorem level_scanNumber (h : scanNumber input = .ok (n, rest)) :
    Level .outside input .outside rest := by
  unfold scanNumber at h
  split at h
  · cases h
  · split at h
    · rename_i hminus
      subst hminus
      exact .neutral (by decide) (level_scanMagnitude h)
    · exact level_scanMagnitude h

end Scanned

/-! ## Between the parts of a container -/

section Parts

variable {input rest : List UInt8}

/-- Before the first item there are blanks, and before the end of an empty array. -/
theorem level_scanFirstItem {more : Bool} (h : scanFirstItem input = .ok (more, rest)) :
    Level .outside input .outside (if more then rest else Octet.closeBracket :: rest) := by
  unfold scanFirstItem at h
  split at h
  · cases h
  · rename_i hskip
    refine level_of_skipBlanks hskip ?_
    split at h
    · rename_i hbracket
      subst hbracket
      obtain ⟨rfl, rfl⟩ := Prod.mk.inj (Except.ok.inj h)
      exact .here _ _
    · obtain ⟨rfl, rfl⟩ := Prod.mk.inj (Except.ok.inj h)
      exact .here _ _

/-- Blanks and a comma are used up; the end of the array is left to the step. -/
theorem level_scanNextItem {more : Bool} (h : scanNextItem input = .ok (more, rest)) :
    Level .outside input .outside (if more then rest else Octet.closeBracket :: rest) := by
  unfold scanNextItem at h
  split at h
  · cases h
  · rename_i hskip
    refine level_of_skipBlanks hskip ?_
    split at h
    · rename_i hbracket
      subst hbracket
      obtain ⟨rfl, rfl⟩ := Prod.mk.inj (Except.ok.inj h)
      exact .here _ _
    · split at h
      · rename_i hcomma
        subst hcomma
        refine .neutral (by decide) ?_
        split at h
        · cases h
        · rename_i hskip'
          refine level_of_skipBlanks hskip' ?_
          split at h
          · cases h
          · obtain ⟨rfl, rfl⟩ := Prod.mk.inj (Except.ok.inj h)
            exact .here _ _
      · cases h

/-- A key is used up from its opening quote on, with the colon after it. -/
theorem level_scanKey {key : String} (h : scanKey input = .ok (key, rest)) :
    Level .inside input .outside rest := by
  unfold scanKey at h
  split at h
  · cases h
  · rename_i hstring
    refine (level_scanString hstring).trans ?_
    split at h
    · cases h
    · rename_i hskip
      refine level_of_skipBlanks hskip ?_
      split at h
      · rename_i hcolon
        subst hcolon
        obtain ⟨_, rfl⟩ := Prod.mk.inj (Except.ok.inj h)
        exact .neutral (by decide) (.here _ _)
      · cases h

/-- A key is a text between quotes; the end of the object is left to the step. -/
theorem level_scanFirstKey {key : Option String} (h : scanFirstKey input = .ok (key, rest)) :
    Level .outside input .outside (if key.isSome then rest else Octet.closeBrace :: rest) := by
  unfold scanFirstKey at h
  split at h
  · cases h
  · rename_i hskip
    refine level_of_skipBlanks hskip ?_
    split at h
    · rename_i hbrace
      subst hbrace
      obtain ⟨rfl, rfl⟩ := Prod.mk.inj (Except.ok.inj h)
      exact .here _ _
    · split at h
      · rename_i hquote
        subst hquote
        split at h
        · cases h
        · rename_i hkey
          obtain ⟨rfl, rfl⟩ := Prod.mk.inj (Except.ok.inj h)
          exact .quote (level_scanKey hkey)
      · cases h

/-- Blanks, a comma and a key are used up, or the end of the object is left. -/
theorem level_scanNextKey {key : Option String} (h : scanNextKey input = .ok (key, rest)) :
    Level .outside input .outside (if key.isSome then rest else Octet.closeBrace :: rest) := by
  unfold scanNextKey at h
  split at h
  · cases h
  · rename_i hskip
    refine level_of_skipBlanks hskip ?_
    split at h
    · rename_i hbrace
      subst hbrace
      obtain ⟨rfl, rfl⟩ := Prod.mk.inj (Except.ok.inj h)
      exact .here _ _
    · split at h
      · rename_i hcomma
        subst hcomma
        refine .neutral (by decide) ?_
        split at h
        · cases h
        · rename_i hskip'
          refine level_of_skipBlanks hskip' ?_
          split at h
          · rename_i hquote
            subst hquote
            split at h
            · cases h
            · rename_i hkey
              obtain ⟨rfl, rfl⟩ := Prod.mk.inj (Except.ok.inj h)
              exact .quote (level_scanKey hkey)
          · split at h <;> cases h
      · cases h

/-- A scalar is used up outside quotes, those of a text included. -/
theorem level_scanScalar {value : Json} (h : scanScalar input = .ok (value, rest)) :
    Level .outside input .outside rest := by
  unfold scanScalar at h
  split at h
  · cases h
  · split at h
    · rename_i hletter
      subst hletter
      split at h
      · cases h
      · rename_i hword
        obtain ⟨_, rfl⟩ := Prod.mk.inj (Except.ok.inj h)
        exact .neutral (by decide) (level_scanWord (by decide) hword)
    · split at h
      · rename_i hletter
        subst hletter
        split at h
        · cases h
        · rename_i hword
          obtain ⟨_, rfl⟩ := Prod.mk.inj (Except.ok.inj h)
          exact .neutral (by decide) (level_scanWord (by decide) hword)
      · split at h
        · rename_i hletter
          subst hletter
          split at h
          · cases h
          · rename_i hword
            obtain ⟨_, rfl⟩ := Prod.mk.inj (Except.ok.inj h)
            exact .neutral (by decide) (level_scanWord (by decide) hword)
        · split at h
          · rename_i hquote
            subst hquote
            split at h
            · cases h
            · rename_i hstring
              obtain ⟨_, rfl⟩ := Prod.mk.inj (Except.ok.inj h)
              exact .quote (level_scanString hstring)
          · split at h
            · split at h
              · cases h
              · rename_i hnumber
                obtain ⟨_, rfl⟩ := Prod.mk.inj (Except.ok.inj h)
                exact level_scanNumber hnumber
            · cases h

end Parts

/-! ## The machine -/

namespace Reading

/-- What beginning to read a value uses up: a scalar, both ends of an empty
container, or the opening of a container. -/
inductive Begins (stack : List Frame) (input : List UInt8) : Reading → Prop
  | scalar {value : Json} {rest : List UInt8} (level : Level .outside input .outside rest) :
      Begins stack input (.holding stack value rest)
  | empty {value : Json} {opening closing : UInt8} {inside rest : List UInt8}
      (opens : Octet.isOpening opening = true) (closes : Octet.isClosing closing = true)
      (before : Level .outside input .outside (opening :: inside))
      (level : Level .outside inside .outside (closing :: rest)) :
      Begins stack input (.holding stack value rest)
  | entered {frame : Frame} {opening : UInt8} {inside rest : List UInt8}
      (opens : Octet.isOpening opening = true)
      (before : Level .outside input .outside (opening :: inside))
      (level : Level .outside inside .outside rest) :
      Begins stack input (.awaiting (frame :: stack) rest)

/-- What going on after a value uses up: what stands before the next value, or
the closing of the innermost container. -/
inductive GoesOn (stack : List Frame) (input : List UInt8) : Reading → Prop
  | more {frame : Frame} {rest : List UInt8} (level : Level .outside input .outside rest) :
      GoesOn stack input (.awaiting (frame :: stack) rest)
  | closed {value : Json} {closing : UInt8} {rest : List UInt8}
      (closes : Octet.isClosing closing = true)
      (level : Level .outside input .outside (closing :: rest)) :
      GoesOn stack input (.holding stack value rest)

/-- Where a value begins a scalar is read, or a container is opened that is empty or is not. -/
theorem begins_of_start {limit : Option Nat} {stack : List Frame} {input : List UInt8}
    {next : Reading} (h : start limit stack input = .ok next) : Begins stack input next := by
  unfold start at h
  split at h
  · cases h
  · rename_i octet inside hskip
    have hblanks := level_skipBlanks input
    rw [hskip] at hblanks
    split at h
    · rename_i hbracket
      subst hbracket
      split at h
      · cases h
      · split at h
        · cases h
        · rename_i hitem
          obtain rfl := Except.ok.inj h
          exact .entered (by decide) hblanks (level_scanFirstItem hitem)
        · rename_i hitem
          obtain rfl := Except.ok.inj h
          exact .empty (by decide) (by decide) hblanks (level_scanFirstItem hitem)
    · split at h
      · rename_i hbrace
        subst hbrace
        split at h
        · cases h
        · split at h
          · cases h
          · rename_i hkey
            obtain rfl := Except.ok.inj h
            exact .entered (by decide) hblanks (level_scanFirstKey hkey)
          · rename_i hkey
            obtain rfl := Except.ok.inj h
            exact .empty (by decide) (by decide) hblanks (level_scanFirstKey hkey)
      · split at h
        · cases h
        · rename_i hscalar
          obtain rfl := Except.ok.inj h
          exact .scalar (hblanks.trans (level_scanScalar hscalar))

/-- After a value comes the next one of its container, or the end of the container. -/
theorem goesOn_of_resume {frame : Frame} {stack : List Frame} {value : Json}
    {input : List UInt8} {next : Reading} (h : resume frame stack value input = .ok next) :
    GoesOn stack input next := by
  unfold resume at h
  split at h
  · split at h
    · cases h
    · rename_i hitem
      obtain rfl := Except.ok.inj h
      exact .more (level_scanNextItem hitem)
    · rename_i hitem
      obtain rfl := Except.ok.inj h
      exact .closed (by decide) (level_scanNextItem hitem)
  · split at h
    · cases h
    · rename_i hkey
      obtain rfl := Except.ok.inj h
      exact .more (level_scanNextKey hkey)
    · rename_i hkey
      obtain rfl := Except.ok.inj h
      exact .closed (by decide) (level_scanNextKey hkey)

/-- An octet that opens or closes a container is used up outside quotes. -/
theorem passes_mark {mark : UInt8} (h : Octet.isContainerMark mark = true)
    {input rest : List UInt8} (next : Passes .outside input .outside rest) :
    Passes .outside (mark :: input) .outside rest := by
  simp only [Octet.isContainerMark, Octet.isOpening, Octet.isClosing, Bool.or_eq_true,
    beq_iff_eq] at h
  rcases h with (rfl | rfl) | rfl | rfl <;> exact .octet (fun _ => by decide) next

/-- Beginning a value uses up octets outside quotes. -/
theorem passes_start {limit : Option Nat} {stack : List Frame} {input : List UInt8}
    {next : Reading} (h : start limit stack input = .ok next) :
    Passes .outside input .outside next.input := by
  cases begins_of_start h with
  | scalar level => exact level.passes
  | empty opens closes before level =>
      exact before.passes.trans (passes_mark (Octet.isContainerMark_of_isOpening opens)
        (level.passes.trans (passes_mark (Octet.isContainerMark_of_isClosing closes)
          (.here _ _))))
  | entered opens before level =>
      exact before.passes.trans
        (passes_mark (Octet.isContainerMark_of_isOpening opens) level.passes)

/-- Going on after a value uses up octets outside quotes. -/
theorem passes_resume {frame : Frame} {stack : List Frame} {value : Json} {input : List UInt8}
    {next : Reading} (h : resume frame stack value input = .ok next) :
    Passes .outside input .outside next.input := by
  cases goesOn_of_resume h with
  | more level => exact level.passes
  | closed closes level =>
      exact level.passes.trans (passes_mark (Octet.isContainerMark_of_isClosing closes)
        (.here _ _))

/-- A run uses up octets outside quotes, and those of the texts between. -/
theorem passes_run {limit : Option Nat} {reading : Reading} {value : Json} {rest : List UInt8}
    (h : run limit reading = .ok (value, rest)) : Passes .outside reading.input .outside rest := by
  fun_induction run limit reading with
  | case1 => cases h
  | case2 stack input next hstart ih => exact (passes_start hstart).trans (ih h)
  | case3 =>
      obtain ⟨_, rfl⟩ := Prod.mk.inj (Except.ok.inj h)
      exact .here _ _
  | case4 => cases h
  | case5 frame stack value input next hresume ih => exact (passes_resume hresume).trans (ih h)

end Reading

/-! ## Documents -/

namespace Json

/-- All octets of a document are used up, and it ends outside quotes. -/
theorem passes_of_read {limit : Option Nat} {octets : List UInt8} {value : Json}
    (h : read limit octets = .ok value) : Passes .outside octets .outside [] := by
  obtain ⟨rest, hrun, hskip⟩ := read_eq_ok_iff.mp h
  have hblanks := (level_skipBlanks rest).passes
  rw [hskip] at hblanks
  exact (Reading.passes_run hrun).trans hblanks

/-- An octet of a document that stands outside quotes is of the first half. -/
theorem lt_of_outside {text : String} {value : Json} (h : parse text = .ok value)
    {front back : List UInt8} {octet : UInt8} (hsplit : Utf8.encode text = front ++ octet :: back)
    (houtside : Quotation.outside.afterAll front = .outside) : octet < 0x80 := by
  have hpasses := passes_of_read (parse_eq_ok_iff.mp h)
  rw [hsplit] at hpasses
  exact hpasses.lt_of_outside houtside

end Json
end SyntaxCensus
