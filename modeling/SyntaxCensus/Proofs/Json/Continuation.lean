import SyntaxCensus.Json.Reader
import SyntaxCensus.Proofs.Json.ReadBack

/-!
# What may follow a value

A reader looks no further than to the first octet after a value, and only to see
whether a number goes on.  So what was read of some octets is read of longer ones
as well, inside whatever containers are open, if they do not go on with a number.

Main definitions:

- `Reading.extended`: a configuration inside open containers, with more octets
  to follow.

Main results:

- `scanString_append`, `scanNumber_append`: the scanners before more octets.
- `Reading.start_extended`, `Reading.resume_extended`: steps before more octets.
- `Reading.run_extended`: a value that was read is read inside open containers.
-/

namespace SyntaxCensus

/-! ## Blanks and words -/

/-- The first octet after blanks is the same before more octets. -/
theorem skipBlanks_append_of_cons {input rest : List UInt8} {octet : UInt8}
    (h : skipBlanks input = octet :: rest) (more : List UInt8) :
    skipBlanks (input ++ more) = octet :: (rest ++ more) := by
  induction input with
  | nil => cases h
  | cons first tail ih =>
      rw [skipBlanks] at h
      rw [List.cons_append, skipBlanks]
      split at h
      · rename_i hblank
        rw [if_pos hblank, ih h]
      · rename_i hblank
        rw [if_neg hblank, ← List.cons_append, h, List.cons_append]

/-- After nothing but blanks the blanks that follow are skipped too. -/
theorem skipBlanks_append_of_nil {input : List UInt8} (h : skipBlanks input = [])
    (more : List UInt8) : skipBlanks (input ++ more) = skipBlanks more := by
  induction input with
  | nil => rfl
  | cons first tail ih =>
      rw [skipBlanks] at h
      split at h
      · rename_i hblank
        rw [List.cons_append, skipBlanks, if_pos hblank, ih h]
      · cases h

/-- A word is as long as it is, so octets after it are not looked at. -/
theorem scanWord_append {word input rest : List UInt8} (h : scanWord word input = .ok rest)
    (more : List UInt8) : scanWord word (input ++ more) = .ok (rest ++ more) := by
  induction word generalizing input with
  | nil =>
      obtain rfl := Except.ok.inj h
      rfl
  | cons expected word ih =>
      cases input with
      | nil => cases h
      | cons octet tail =>
          rw [scanWord] at h
          rw [List.cons_append, scanWord]
          split at h
          · rename_i heq
            rw [if_pos heq, ih h]
          · cases h

/-! ## Strings -/

section Strings

variable {input rest octets : List UInt8} (more : List UInt8)

theorem scanHex_append {n : Nat} (h : scanHex input = .ok (n, rest)) :
    scanHex (input ++ more) = .ok (n, rest ++ more) := by
  unfold scanHex at h
  split at h
  · split at h
    · rename_i ha hb hc hd
      obtain ⟨rfl, rfl⟩ := Prod.mk.inj (Except.ok.inj h)
      simp only [List.cons_append, scanHex, ha, hb, hc, hd]
    · cases h
  · cases h

/-- The second half of a pair ends with its digits. -/
theorem scanLowSurrogate_append {high : Nat}
    (h : scanLowSurrogate high input = .ok (octets, rest)) :
    scanLowSurrogate high (input ++ more) = .ok (octets, rest ++ more) := by
  unfold scanLowSurrogate at h
  split at h
  · cases h
  · split at h
    · cases h
    · rename_i hfirst
      split at h
      · cases h
      · split at h
        · cases h
        · rename_i hsecond
          split at h
          · cases h
          · rename_i hhex
            split at h
            · rename_i hlow
              obtain ⟨rfl, rfl⟩ := Prod.mk.inj (Except.ok.inj h)
              simp only [List.cons_append, scanLowSurrogate, hfirst, hsecond, hlow, if_false,
                if_true, scanHex_append more hhex]
            · cases h

theorem scanCodePoint_append (h : scanCodePoint input = .ok (octets, rest)) :
    scanCodePoint (input ++ more) = .ok (octets, rest ++ more) := by
  unfold scanCodePoint at h
  split at h
  · cases h
  · rename_i hhex
    split at h
    · cases h
    · rename_i hlow
      split at h
      · rename_i hhigh
        simp only [scanCodePoint, scanHex_append more hhex, hlow, hhigh, if_true,
          scanLowSurrogate_append more h, if_false, Bool.false_eq_true]
      · rename_i hhigh
        obtain ⟨rfl, rfl⟩ := Prod.mk.inj (Except.ok.inj h)
        simp only [scanCodePoint, scanHex_append more hhex, hlow, hhigh, if_false,
          Bool.false_eq_true]

/-- The letter of an escape tells how far it goes. -/
theorem scanEscape_append (h : scanEscape input = .ok (octets, rest)) :
    scanEscape (input ++ more) = .ok (octets, rest ++ more) := by
  unfold scanEscape at h
  split at h
  · cases h
  · split at h
    · rename_i hescaped
      obtain ⟨rfl, rfl⟩ := Prod.mk.inj (Except.ok.inj h)
      simp only [List.cons_append, scanEscape, hescaped]
    · rename_i hescaped
      split at h
      · rename_i hletter
        simp only [List.cons_append, scanEscape, hescaped]
        rw [if_pos hletter, scanCodePoint_append more h]
      · cases h

/-- A text ends at its quote, whatever comes after it. -/
theorem scanStringOnto_append {content : List UInt8} {text : String}
    (h : scanStringOnto content input = .ok (text, rest)) :
    scanStringOnto content (input ++ more) = .ok (text, rest ++ more) := by
  fun_induction scanStringOnto content input with
  | case1 => cases h
  | case2 content tail =>
      unfold finishString at h
      split at h
      · rename_i hdecode
        obtain ⟨rfl, rfl⟩ := Prod.mk.inj (Except.ok.inj h)
        rw [List.cons_append, scanStringOnto, if_pos rfl, finishString, hdecode]
      · cases h
  | case3 => cases h
  | case4 content tail octets after hescape _ ih =>
      rw [List.cons_append, scanStringOnto_escape (scanEscape_append more hescape)]
      exact ih h
  | case5 => cases h
  | case6 content octet tail hquote hbackslash hcontrol ih =>
      rw [List.cons_append, scanStringOnto_plain ⟨hquote, hbackslash, hcontrol⟩]
      exact ih h

/-- A string is the same before more octets. -/
theorem scanString_append {text : String} (h : scanString input = .ok (text, rest)) :
    scanString (input ++ more) = .ok (text, rest ++ more) :=
  scanStringOnto_append more h

end Strings

/-! ## Numbers -/

section Numbers

variable {more : List UInt8} (hmore : NumberEnds more)
include hmore

/-- No digit stands where a number ends. -/
theorem digit?_of_ends : more.head?.bind Octet.digit? = none := by
  cases more with
  | nil => rfl
  | cons octet rest => simpa [Octet.isDigit] using (hmore octet rfl).1

/-- Digits are taken up to an octet that is none; `more` begins with no digit. -/
theorem takeDigits_append (significand count : Nat) (input : List UInt8) :
    takeDigits significand count (input ++ more) =
      let taken := takeDigits significand count input
      ⟨taken.significand, taken.count, taken.rest ++ more⟩ := by
  induction input generalizing significand count with
  | nil =>
      cases more with
      | nil => rfl
      | cons octet rest =>
          have hnone : Octet.digit? octet = none := digit?_of_ends hmore
          simp [takeDigits, hnone]
  | cons octet tail ih =>
      rw [List.cons_append, takeDigits, takeDigits]
      split
      · exact ih _ _
      · rfl

theorem countDigits_append (input : List UInt8) :
    countDigits (input ++ more) = countDigits input := by
  induction input with
  | nil => exact countDigits_of_ends hmore
  | cons octet tail ih =>
      unfold countDigits at ih ⊢
      rw [List.cons_append, List.takeWhile_cons, List.takeWhile_cons]
      split
      · rw [List.length_cons, List.length_cons, ih]
      · rfl

theorem dropDigits_append (input : List UInt8) :
    dropDigits (input ++ more) = dropDigits input ++ more := by
  induction input with
  | nil => exact dropDigits_of_ends hmore
  | cons octet tail ih =>
      unfold dropDigits at ih ⊢
      rw [List.cons_append, List.dropWhile_cons, List.dropWhile_cons]
      split
      · exact ih
      · rfl

/-- An exponent ends where its digits do, whether it is small enough or not. -/
theorem takeExponent_append (exponent : Nat) (input : List UInt8) :
    takeExponent exponent (input ++ more) =
      match takeExponent exponent input with
      | .ok (total, rest) => .ok (total, rest ++ more)
      | .error rest => .error (rest ++ more) := by
  induction input generalizing exponent with
  | nil =>
      cases more with
      | nil => rfl
      | cons octet rest =>
          have hnone : Octet.digit? octet = none := digit?_of_ends hmore
          simp [takeExponent, hnone]
  | cons octet tail ih =>
      rw [List.cons_append, takeExponent, takeExponent]
      cases Octet.digit? octet with
      | none => rfl
      | some digit =>
          dsimp only
          split
          · exact ih _
          · rfl

omit hmore in
theorem scanSign_append {input rest : List UInt8} {down : Bool} {octet : UInt8}
    (h : scanSign input = (down, octet :: rest)) :
    scanSign (input ++ more) = (down, octet :: (rest ++ more)) := by
  cases input with
  | nil => cases (Prod.mk.inj h).2
  | cons first tail =>
      rw [scanSign] at h
      rw [List.cons_append, scanSign]
      split at h
      · rename_i hplus
        obtain ⟨rfl, rfl⟩ := Prod.mk.inj h
        rw [if_pos hplus, List.cons_append]
      · rename_i hplus
        rw [if_neg hplus]
        split at h
        · rename_i hminus
          obtain ⟨rfl, rfl⟩ := Prod.mk.inj h
          rw [if_pos hminus, List.cons_append]
        · rename_i hminus
          obtain ⟨rfl, htail⟩ := Prod.mk.inj h
          obtain ⟨rfl, rfl⟩ := List.cons.inj htail
          rw [if_neg hminus]

variable {negative : Bool} {significand : Nat} {input rest : List UInt8} {n : Number}

omit hmore in
theorem scaledNumber_append {exponent : Int}
    (h : scaledNumber negative significand exponent input = .ok (n, rest)) :
    scaledNumber negative significand exponent (input ++ more) = .ok (n, rest ++ more) := by
  unfold scaledNumber at h ⊢
  split at h
  · obtain ⟨rfl, rfl⟩ := Prod.mk.inj (Except.ok.inj h)
    rfl
  · cases h

/-- The digits of an exponent end before `more`. -/
theorem scanExponent_append {scale : Int}
    (h : scanExponent negative significand scale input = .ok (n, rest)) :
    scanExponent negative significand scale (input ++ more) = .ok (n, rest ++ more) := by
  unfold scanExponent at h
  split at h
  · cases h
  · rename_i down octet tail hsign
    simp only [scanExponent, scanSign_append hsign]
    split at h
    · cases h
    · rename_i first _
      cases hexponent : takeExponent first tail with
      | ok taken =>
          have happend : takeExponent first (tail ++ more) = .ok (taken.1, taken.2 ++ more) := by
            rw [takeExponent_append hmore, hexponent]
          simp only [hexponent] at h
          simp only [happend]
          exact scaledNumber_append h
      | error after =>
          have happend : takeExponent first (tail ++ more) = .error (after ++ more) := by
            rw [takeExponent_append hmore, hexponent]
          simp only [hexponent] at h
          simp only [happend]
          split at h
          · cases h
          · rename_i hzero
            obtain ⟨rfl, rfl⟩ := Prod.mk.inj (Except.ok.inj h)
            rw [if_neg hzero, dropDigits_append hmore]

/-- Whether there is an exponent is told by one octet. -/
theorem scanScale_append {scale : Int}
    (h : scanScale negative significand scale input = .ok (n, rest)) :
    scanScale negative significand scale (input ++ more) = .ok (n, rest ++ more) := by
  cases input with
  | nil =>
      have hscaled := @scaledNumber_append more _ _ _ _ _ _ h
      cases more with
      | nil => exact hscaled
      | cons octet after =>
          rw [List.nil_append] at hscaled ⊢
          rw [scanScale, (hmore octet rfl).2.2]
          exact hscaled
  | cons octet tail =>
      rw [scanScale] at h
      rw [List.cons_append, scanScale]
      split at h
      · rename_i hmark
        rw [if_pos hmark, scanExponent_append hmore h]
      · rename_i hmark
        rw [if_neg hmark, ← List.cons_append, scaledNumber_append h]

theorem scanFraction_append {scale : Int}
    (h : scanFraction negative significand scale input = .ok (n, rest)) :
    scanFraction negative significand scale (input ++ more) = .ok (n, rest ++ more) := by
  simp only [scanFraction, takeDigits_append hmore, countDigits_append hmore,
    dropDigits_append hmore] at h ⊢
  split at h
  · cases h
  · rename_i hdigits
    rw [if_neg hdigits, scanScale_append hmore h]

/-- Whether a point or an exponent follows the whole digits is told by one octet. -/
theorem scanAfterWhole_append {left : Nat}
    (h : scanAfterWhole negative significand left input = .ok (n, rest)) :
    scanAfterWhole negative significand left (input ++ more) = .ok (n, rest ++ more) := by
  cases input with
  | nil =>
      rw [scanAfterWhole] at h
      split at h
      · rename_i hleft
        obtain ⟨rfl, rfl⟩ := Prod.mk.inj (Except.ok.inj h)
        rw [hleft]
        exact scanAfterWhole_of_ends hmore negative significand
      · rename_i hleft
        have hscaled := @scaledNumber_append more _ _ _ _ _ _ h
        cases more with
        | nil => rwa [List.append_nil, scanAfterWhole, if_neg hleft]
        | cons octet after =>
            obtain ⟨-, hpoint, hmark⟩ := hmore octet rfl
            rw [List.nil_append] at hscaled ⊢
            rw [scanAfterWhole, if_neg hpoint, hmark, if_neg Bool.false_ne_true, if_neg hleft]
            exact hscaled
  | cons octet tail =>
      rw [scanAfterWhole] at h
      rw [List.cons_append, scanAfterWhole]
      split at h
      · rename_i hpoint
        rw [if_pos hpoint, scanFraction_append hmore h]
      · rename_i hpoint
        rw [if_neg hpoint]
        split at h
        · rename_i hmark
          rw [if_pos hmark, scanExponent_append hmore h]
        · rename_i hmark
          rw [if_neg hmark]
          split at h
          · rename_i hleft
            obtain ⟨rfl, rfl⟩ := Prod.mk.inj (Except.ok.inj h)
            rw [if_pos hleft, List.cons_append]
          · rename_i hleft
            rw [if_neg hleft, ← List.cons_append, scaledNumber_append h]

theorem scanMagnitude_append (h : scanMagnitude negative input = .ok (n, rest)) :
    scanMagnitude negative (input ++ more) = .ok (n, rest ++ more) := by
  cases input with
  | nil => cases h
  | cons octet tail =>
      rw [scanMagnitude] at h
      rw [List.cons_append, scanMagnitude]
      split at h
      · cases h
      · split at h
        · cases h
        · rename_i hdigit
          have hhead : ((tail ++ more).head?.bind Octet.digit?).isSome = false := by
            cases tail with
            | nil => rw [List.nil_append, digit?_of_ends hmore]; rfl
            | cons => simpa using hdigit
          simp only [hhead, Bool.false_eq_true, if_false]
          exact scanAfterWhole_append hmore h
      · simp only [takeDigits_append hmore, countDigits_append hmore, dropDigits_append hmore]
        exact scanAfterWhole_append hmore h

/-- A number is the same before octets that do not go on with it. -/
theorem scanNumber_append (h : scanNumber input = .ok (n, rest)) :
    scanNumber (input ++ more) = .ok (n, rest ++ more) := by
  cases input with
  | nil => cases h
  | cons octet tail =>
      rw [scanNumber] at h
      rw [List.cons_append, scanNumber]
      split at h
      · rename_i hminus
        rw [if_pos hminus, scanMagnitude_append hmore h]
      · rename_i hminus
        rw [if_neg hminus, ← List.cons_append, scanMagnitude_append hmore h]

end Numbers

/-! ## Between the parts of a container -/

section Parts

variable {input rest : List UInt8} (more : List UInt8)

/-- Whether an array is empty is told by the first octet that is no blank. -/
theorem scanFirstItem_append {follows : Bool} (h : scanFirstItem input = .ok (follows, rest)) :
    scanFirstItem (input ++ more) = .ok (follows, rest ++ more) := by
  unfold scanFirstItem at h
  split at h
  · cases h
  · rename_i hskip
    simp only [scanFirstItem, skipBlanks_append_of_cons hskip]
    split at h
    · rename_i hclose
      obtain ⟨rfl, rfl⟩ := Prod.mk.inj (Except.ok.inj h)
      rw [if_pos hclose]
    · rename_i hclose
      obtain ⟨rfl, rfl⟩ := Prod.mk.inj (Except.ok.inj h)
      rw [if_neg hclose, List.cons_append]

/-- A comma or the end of the array is told by one octet. -/
theorem scanNextItem_append {follows : Bool} (h : scanNextItem input = .ok (follows, rest)) :
    scanNextItem (input ++ more) = .ok (follows, rest ++ more) := by
  unfold scanNextItem at h
  split at h
  · cases h
  · rename_i hskip
    simp only [scanNextItem, skipBlanks_append_of_cons hskip]
    split at h
    · rename_i hclose
      obtain ⟨rfl, rfl⟩ := Prod.mk.inj (Except.ok.inj h)
      rw [if_pos hclose]
    · rename_i hclose
      rw [if_neg hclose]
      split at h
      · rename_i hcomma
        rw [if_pos hcomma]
        split at h
        · cases h
        · rename_i hnext
          split at h
          · cases h
          · rename_i hitem
            obtain ⟨rfl, rfl⟩ := Prod.mk.inj (Except.ok.inj h)
            simp only [skipBlanks_append_of_cons hnext, hitem, if_false, List.cons_append]
      · cases h

/-- A key is a text, and its colon is one octet. -/
theorem scanKey_append {key : String} (h : scanKey input = .ok (key, rest)) :
    scanKey (input ++ more) = .ok (key, rest ++ more) := by
  unfold scanKey at h
  split at h
  · cases h
  · rename_i hstring
    split at h
    · cases h
    · rename_i hskip
      split at h
      · rename_i hcolon
        obtain ⟨rfl, rfl⟩ := Prod.mk.inj (Except.ok.inj h)
        simp only [scanKey, scanString_append more hstring, skipBlanks_append_of_cons hskip,
          hcolon, if_true]
      · cases h

theorem scanFirstKey_append {key : Option String} (h : scanFirstKey input = .ok (key, rest)) :
    scanFirstKey (input ++ more) = .ok (key, rest ++ more) := by
  unfold scanFirstKey at h
  split at h
  · cases h
  · rename_i hskip
    simp only [scanFirstKey, skipBlanks_append_of_cons hskip]
    split at h
    · rename_i hclose
      obtain ⟨rfl, rfl⟩ := Prod.mk.inj (Except.ok.inj h)
      rw [if_pos hclose]
    · rename_i hclose
      rw [if_neg hclose]
      split at h
      · rename_i hquote
        rw [if_pos hquote]
        split at h
        · cases h
        · rename_i hkey
          obtain ⟨rfl, rfl⟩ := Prod.mk.inj (Except.ok.inj h)
          simp only [scanKey_append more hkey]
      · cases h

/-- A comma or the end of the object is told by one octet, and then there is a key. -/
theorem scanNextKey_append {key : Option String} (h : scanNextKey input = .ok (key, rest)) :
    scanNextKey (input ++ more) = .ok (key, rest ++ more) := by
  unfold scanNextKey at h
  split at h
  · cases h
  · rename_i hskip
    simp only [scanNextKey, skipBlanks_append_of_cons hskip]
    split at h
    · rename_i hclose
      obtain ⟨rfl, rfl⟩ := Prod.mk.inj (Except.ok.inj h)
      rw [if_pos hclose]
    · rename_i hclose
      rw [if_neg hclose]
      split at h
      · rename_i hcomma
        rw [if_pos hcomma]
        split at h
        · cases h
        · rename_i hnext
          simp only [skipBlanks_append_of_cons hnext]
          split at h
          · rename_i hquote
            rw [if_pos hquote]
            split at h
            · cases h
            · rename_i hkey
              obtain ⟨rfl, rfl⟩ := Prod.mk.inj (Except.ok.inj h)
              simp only [scanKey_append more hkey]
          · split at h <;> cases h
      · cases h

end Parts

/-! ## Scalars -/

/-- Words and texts end by themselves; numbers end where `more` begins. -/
theorem scanScalar_append {input rest more : List UInt8} (hmore : NumberEnds more)
    {value : Json} (h : scanScalar input = .ok (value, rest)) :
    scanScalar (input ++ more) = .ok (value, rest ++ more) := by
  unfold scanScalar at h
  split at h
  · cases h
  · rename_i octet tail
    rw [List.cons_append, scanScalar]
    split at h
    · rename_i hnull
      rw [if_pos hnull]
      split at h
      · cases h
      · rename_i hword
        obtain ⟨rfl, rfl⟩ := Prod.mk.inj (Except.ok.inj h)
        rw [scanWord_append hword]
    · rename_i hnull
      rw [if_neg hnull]
      split at h
      · rename_i htrue
        rw [if_pos htrue]
        split at h
        · cases h
        · rename_i hword
          obtain ⟨rfl, rfl⟩ := Prod.mk.inj (Except.ok.inj h)
          rw [scanWord_append hword]
      · rename_i htrue
        rw [if_neg htrue]
        split at h
        · rename_i hfalse
          rw [if_pos hfalse]
          split at h
          · cases h
          · rename_i hword
            obtain ⟨rfl, rfl⟩ := Prod.mk.inj (Except.ok.inj h)
            rw [scanWord_append hword]
        · rename_i hfalse
          rw [if_neg hfalse]
          split at h
          · rename_i hquote
            rw [if_pos hquote]
            split at h
            · cases h
            · rename_i hstring
              obtain ⟨rfl, rfl⟩ := Prod.mk.inj (Except.ok.inj h)
              rw [scanString_append more hstring]
          · rename_i hquote
            rw [if_neg hquote]
            split at h
            · rename_i hnumber
              rw [if_pos hnumber]
              split at h
              · cases h
              · rename_i hscan
                obtain ⟨rfl, rfl⟩ := Prod.mk.inj (Except.ok.inj h)
                rw [← List.cons_append, scanNumber_append hmore hscan]
            · cases h

/-! ## The machine -/

namespace Reading

/-- The configuration with more containers open around those that are, and with
more octets to follow. -/
def extended (base : List Frame) (more : List UInt8) : Reading → Reading
  | .awaiting stack input => .awaiting (stack ++ base) (input ++ more)
  | .holding stack value input => .holding (stack ++ base) value (input ++ more)

section Extension

variable (base : List Frame) {more : List UInt8} {input : List UInt8} {next : Reading}

/-- A value is begun inside open containers as it is outside of them. -/
theorem start_extended (hmore : NumberEnds more) {stack : List Frame}
    (h : start none stack input = .ok next) :
    start none (stack ++ base) (input ++ more) = .ok (next.extended base more) := by
  unfold start at h
  split at h
  · cases h
  · rename_i octet tail hskip
    simp only [start, skipBlanks_append_of_cons hskip, isFull, Bool.false_eq_true, if_false] at h ⊢
    split at h
    · rename_i hbracket
      rw [if_pos hbracket]
      split at h
      · cases h
      · rename_i hitem
        obtain rfl := Except.ok.inj h
        rw [scanFirstItem_append more hitem]
        rfl
      · rename_i hitem
        obtain rfl := Except.ok.inj h
        rw [scanFirstItem_append more hitem]
        rfl
    · rename_i hbracket
      rw [if_neg hbracket]
      split at h
      · rename_i hbrace
        rw [if_pos hbrace]
        split at h
        · cases h
        · rename_i hkey
          obtain rfl := Except.ok.inj h
          rw [scanFirstKey_append more hkey]
          rfl
        · rename_i hkey
          obtain rfl := Except.ok.inj h
          rw [scanFirstKey_append more hkey]
          rfl
      · rename_i hbrace
        rw [if_neg hbrace]
        split at h
        · cases h
        · rename_i hscalar
          obtain rfl := Except.ok.inj h
          rw [← List.cons_append, scanScalar_append hmore hscalar]
          rfl

/-- A container goes on inside open containers as it does outside of them. -/
theorem resume_extended {frame : Frame} {stack : List Frame} {value : Json}
    (h : resume frame stack value input = .ok next) :
    resume frame (stack ++ base) value (input ++ more) = .ok (next.extended base more) := by
  unfold resume at h
  split at h
  · split at h
    · cases h
    · rename_i hitem
      obtain rfl := Except.ok.inj h
      simp only [resume, scanNextItem_append more hitem]
      rfl
    · rename_i hitem
      obtain rfl := Except.ok.inj h
      simp only [resume, scanNextItem_append more hitem]
      rfl
  · split at h
    · cases h
    · rename_i hkey
      obtain rfl := Except.ok.inj h
      simp only [resume, scanNextKey_append more hkey]
      rfl
    · rename_i hkey
      obtain rfl := Except.ok.inj h
      simp only [resume, scanNextKey_append more hkey]
      rfl

/-- A value that was read is read inside open containers, and they go on with it
after what was left. -/
theorem run_extended (hmore : NumberEnds more) {reading : Reading} {value : Json}
    {rest : List UInt8} (h : run none reading = .ok (value, rest)) :
    run none (reading.extended base more) = run none (.holding base value (rest ++ more)) := by
  fun_induction run none reading with
  | case1 => cases h
  | case2 stack input next hstart ih =>
      rw [extended, run_awaiting (start_extended base hmore hstart), ih h]
  | case3 value input =>
      obtain ⟨rfl, rfl⟩ := Prod.mk.inj (Except.ok.inj h)
      rfl
  | case4 => cases h
  | case5 frame stack value input next hresume ih =>
      rw [extended, List.cons_append, run_holding (resume_extended base hresume), ih h]

end Extension
end Reading
end SyntaxCensus
