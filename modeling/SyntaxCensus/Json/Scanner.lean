import SyntaxCensus.Json.Error
import SyntaxCensus.Text.Octet
import SyntaxCensus.Text.Utf8

/-!
# The words of a document

Reading what has no value inside it: blanks, words, strings and numbers.  Each
scanner takes the octets that follow and gives what it read with the octets
after it, or stops at a fault.

Numbers keep as many digits as fit 64 bits.  Digits of the whole part beyond
them count as zeros, digits of the fraction beyond them are ignored, and the
result is scaled by its power of ten in rounded steps.

Main results:

- `scanString_length` and `scanNumber_length`: what was read is used up.
-/

namespace SyntaxCensus

/-- The outcome of a scanner: what it read and the octets after it. -/
abbrev Scan (α : Type) := Except Stop (α × List UInt8)

/-! ## Blanks and words -/

/-- The octets after any blanks. -/
def skipBlanks : List UInt8 → List UInt8
  | [] => []
  | octet :: rest => if Octet.isBlank octet then skipBlanks rest else octet :: rest

theorem skipBlanks_length (input : List UInt8) : (skipBlanks input).length ≤ input.length := by
  induction input with
  | nil => simp [skipBlanks]
  | cons octet rest ih =>
      simp only [skipBlanks]
      split
      · simp; omega
      · simp

/-- The octets after a word that must come next. -/
def scanWord : List UInt8 → List UInt8 → Except Stop (List UInt8)
  | [], input => .ok input
  | _ :: _, [] => .error (.here .endInValue [])
  | expected :: word, octet :: rest =>
      if octet = expected then scanWord word rest
      else .error (.here .wordExpected rest)

theorem scanWord_length {word input rest : List UInt8} (h : scanWord word input = .ok rest) :
    rest.length ≤ input.length := by
  induction word generalizing input with
  | nil => simp_all [scanWord]
  | cons expected word ih =>
      cases input with
      | nil => simp [scanWord] at h
      | cons octet tail =>
          simp only [scanWord] at h
          split at h
          · have := ih h
            simp; omega
          · simp at h

/-! ## Strings -/

/-- A number of four hexadecimal digits. -/
def scanHex : List UInt8 → Scan Nat
  | a :: b :: c :: d :: rest =>
      match Octet.hexDigit? a, Octet.hexDigit? b, Octet.hexDigit? c, Octet.hexDigit? d with
      | some a, some b, some c, some d => .ok (((a * 16 + b) * 16 + c) * 16 + d, rest)
      | _, _, _, _ => .error (.here .escapeUnknown rest)
  | _ => .error (.here .endInString [])

theorem scanHex_length {input rest : List UInt8} {n : Nat} (h : scanHex input = .ok (n, rest)) :
    rest.length < input.length := by
  unfold scanHex at h
  split at h
  · split at h
    · simp at h
      obtain ⟨-, rfl⟩ := h
      simp; omega
    · simp at h
  · simp at h

/-- The second half of a surrogate pair. -/
def isLowSurrogate (n : Nat) : Bool :=
  decide (0xDC00 ≤ n ∧ n ≤ 0xDFFF)

/-- The first half of a surrogate pair. -/
def isHighSurrogate (n : Nat) : Bool :=
  decide (0xD800 ≤ n ∧ n ≤ 0xDBFF)

/-- The octets of a code point. -/
def codePointOctets (n : Nat) : List UInt8 :=
  String.utf8EncodeChar (Char.ofNat n)

/-- The second half of the pair that begins with `high`. -/
def scanLowSurrogate (high : Nat) : List UInt8 → Scan (List UInt8)
  | [] => .error (.here .endInString [])
  | first :: afterFirst =>
      if first ≠ Octet.backslash then .error (.here .surrogateUnfinished afterFirst)
      else
        match afterFirst with
        | [] => .error (.here .endInString [])
        | second :: afterSecond =>
            if second ≠ 0x75 then .error (.here .surrogateUnfinished afterSecond)
            else
              match scanHex afterSecond with
              | .error stop => .error stop
              | .ok (low, rest) =>
                  if isLowSurrogate low then
                    .ok (codePointOctets
                      ((high - 0xD800) * 0x400 + (low - 0xDC00) + 0x10000), rest)
                  else .error (.here .surrogateAlone rest)

/-- The octets of a character given by its code point, after backslash and
`u`; a character beyond 16 bits is given by a pair. -/
def scanCodePoint (input : List UInt8) : Scan (List UInt8) :=
  match scanHex input with
  | .error stop => .error stop
  | .ok (n, rest) =>
      if isLowSurrogate n then .error (.here .surrogateAlone rest)
      else if isHighSurrogate n then scanLowSurrogate n rest
      else .ok (codePointOctets n, rest)

/-- The octets that an escape stands for, after its backslash. -/
def scanEscape : List UInt8 → Scan (List UInt8)
  | [] => .error (.here .endInString [])
  | letter :: rest =>
      match Octet.escaped? letter with
      | some octet => .ok ([octet], rest)
      | none =>
          if letter = 0x75 then scanCodePoint rest
          else .error (.here .escapeUnknown rest)

theorem scanLowSurrogate_length {high : Nat} {input rest octets : List UInt8}
    (h : scanLowSurrogate high input = .ok (octets, rest)) : rest.length < input.length := by
  unfold scanLowSurrogate at h
  split at h
  · simp at h
  · split at h
    · simp at h
    · split at h
      · simp at h
      · split at h
        · simp at h
        · split at h
          · simp at h
          · rename_i hhex
            have := scanHex_length hhex
            split at h
            · simp at h
              obtain ⟨-, rfl⟩ := h
              simp; omega
            · simp at h

theorem scanCodePoint_length {input rest octets : List UInt8}
    (h : scanCodePoint input = .ok (octets, rest)) : rest.length < input.length := by
  unfold scanCodePoint at h
  split at h
  · simp at h
  · rename_i hhex
    have := scanHex_length hhex
    split at h
    · simp at h
    · split at h
      · have := scanLowSurrogate_length h
        omega
      · simp at h
        obtain ⟨-, rfl⟩ := h
        omega

/-- An escape has at least its letter. -/
theorem scanEscape_length {input rest octets : List UInt8}
    (h : scanEscape input = .ok (octets, rest)) : rest.length < input.length := by
  unfold scanEscape at h
  split at h
  · simp at h
  · split at h
    · simp at h
      obtain ⟨-, rfl⟩ := h
      simp
    · split at h
      · have := scanCodePoint_length h
        simp; omega
      · simp at h

/-- The text of a string whose octets have all been read, in reverse. -/
def finishString (content rest : List UInt8) : Scan String :=
  match Utf8.decode? content.reverse with
  | some text => .ok (text, rest)
  | none =>
      .error ⟨.notUnicode, rest, .here, content.length - Utf8.validLength content.reverse⟩

/-- A string after its opening quote; `content` is what has been read of it,
in reverse. -/
def scanStringOnto (content : List UInt8) (input : List UInt8) : Scan String :=
  match input with
  | [] => .error (.here .endInString [])
  | octet :: rest =>
      if octet = Octet.quote then finishString content rest
      else if octet = Octet.backslash then
        match _h : scanEscape rest with
        | .error stop => .error stop
        | .ok (octets, after) => scanStringOnto (octets.reverse ++ content) after
      else if octet < 0x20 then .error (.here .controlCharacter rest)
      else scanStringOnto (octet :: content) rest
  termination_by input.length
  decreasing_by
    · have := scanEscape_length _h
      simp; omega
    · simp

/-- A string after its opening quote. -/
def scanString (input : List UInt8) : Scan String :=
  scanStringOnto [] input

theorem scanStringOnto_length {content input rest : List UInt8} {text : String}
    (h : scanStringOnto content input = .ok (text, rest)) : rest.length < input.length := by
  fun_induction scanStringOnto content input with
  | case1 => simp at h
  | case2 =>
      unfold finishString at h
      split at h
      · simp at h
        obtain ⟨-, rfl⟩ := h
        simp
      · simp at h
  | case3 => simp at h
  | case4 _ _ _ _ hescape _ ih =>
      have := ih h
      have := scanEscape_length hescape
      simp; omega
  | case5 => simp at h
  | case6 _ _ _ _ _ _ ih =>
      have := ih h
      simp; omega

/-- A string has at least its closing quote. -/
theorem scanString_length {input rest : List UInt8} {text : String}
    (h : scanString input = .ok (text, rest)) : rest.length < input.length :=
  scanStringOnto_length h

/-! ## Numbers -/

/-- A significand with one digit more, if it still fits 64 bits. -/
def appendDigit? (significand digit : Nat) : Option Nat :=
  let longer := significand * 10 + digit
  if longer ≤ Number.maxWhole then some longer else none

/-- Digits taken into a significand: the longer significand, how many digits
were taken, and what follows them. -/
structure TakenDigits where
  significand : Nat
  count : Nat
  rest : List UInt8
  deriving DecidableEq, Repr

/-- Take digits in front as long as they fit the significand. -/
def takeDigits (significand count : Nat) : List UInt8 → TakenDigits
  | [] => ⟨significand, count, []⟩
  | octet :: rest =>
      match (Octet.digit? octet).bind (appendDigit? significand) with
      | some longer => takeDigits longer (count + 1) rest
      | none => ⟨significand, count, octet :: rest⟩

/-- How many digits stand in front. -/
def countDigits (input : List UInt8) : Nat :=
  (input.takeWhile Octet.isDigit).length

/-- What follows the digits in front. -/
def dropDigits (input : List UInt8) : List UInt8 :=
  input.dropWhile Octet.isDigit

/-- The largest exponent that is read digit by digit. -/
def maxExponent : Nat := 2147483647

/-- The digits of an exponent after its first one.  An exponent that is too
large ends at the digit that makes it so. -/
def takeExponent (exponent : Nat) : List UInt8 → Except (List UInt8) (Nat × List UInt8)
  | [] => .ok (exponent, [])
  | octet :: rest =>
      match Octet.digit? octet with
      | none => .ok (exponent, octet :: rest)
      | some digit =>
          if exponent * 10 + digit ≤ maxExponent then takeExponent (exponent * 10 + digit) rest
          else .error rest

/-- A double with a sign. -/
def signed (negative : Bool) (x : Double) : Double :=
  if negative then x.neg else x

/-- The number with these digits and this power of ten. -/
def scaledNumber (negative : Bool) (significand : Nat) (exponent : Int) (rest : List UInt8) :
    Scan Number :=
  match (Double.ofNat significand).scaleByTen exponent with
  | some x => .ok (.double (signed negative x), rest)
  | none => .error (.hereAfterLook .numberOutOfRange rest)

/-- The sign of an exponent: whether it is negative, and what follows. -/
def scanSign : List UInt8 → Bool × List UInt8
  | octet :: rest =>
      if octet = Octet.plus then (false, rest)
      else if octet = Octet.minus then (true, rest)
      else (false, octet :: rest)
  | [] => (false, [])

/-- The exponent after its mark, and the number with it.  An exponent beyond
all bounds gives zero or is out of range. -/
def scanExponent (negative : Bool) (significand : Nat) (scale : Int) (input : List UInt8) :
    Scan Number :=
  match scanSign input with
  | (_, []) => .error (.here .endInValue [])
  | (down, octet :: rest) =>
      match Octet.digit? octet with
      | none => .error (.here .numberMalformed rest)
      | some first =>
          match takeExponent first rest with
          | .ok (exponent, after) =>
              scaledNumber negative significand
                (if down then scale - exponent else scale + exponent) after
          | .error after =>
              if significand ≠ 0 ∧ down = false then .error (.here .numberOutOfRange after)
              else .ok (.double (signed negative Double.zero), dropDigits after)

/-- What may follow the digits of a number with a fraction or with digits left
out: an exponent or nothing. -/
def scanScale (negative : Bool) (significand : Nat) (scale : Int) : List UInt8 → Scan Number
  | [] => scaledNumber negative significand scale []
  | octet :: rest =>
      if Octet.isExponentMark octet then scanExponent negative significand scale rest
      else scaledNumber negative significand scale (octet :: rest)

/-- The fraction after its point, which has at least one digit. -/
def scanFraction (negative : Bool) (significand : Nat) (scale : Int) (input : List UInt8) :
    Scan Number :=
  let taken := takeDigits significand 0 input
  if taken.count + countDigits taken.rest = 0 then
    .error (.next (if input.isEmpty then .endInValue else .numberMalformed) input)
  else scanScale negative taken.significand (scale - taken.count) (dropDigits taken.rest)

/-- A number without fraction and exponent: a whole number if 64 bits hold it
and it is not a negative zero. -/
def wholeNumber (negative : Bool) (significand : Nat) : Number :=
  if negative = false then .whole significand
  else if 0 < significand ∧ significand ≤ Number.maxNegative then .whole (-(significand : Int))
  else .double (Double.ofNat significand).neg

/-- What follows the digits of the whole part, `left` of which were left out. -/
def scanAfterWhole (negative : Bool) (significand left : Nat) : List UInt8 → Scan Number
  | [] =>
      if left = 0 then .ok (wholeNumber negative significand, [])
      else scaledNumber negative significand left []
  | octet :: rest =>
      if octet = Octet.point then scanFraction negative significand left rest
      else if Octet.isExponentMark octet then scanExponent negative significand left rest
      else if left = 0 then .ok (wholeNumber negative significand, octet :: rest)
      else scaledNumber negative significand left (octet :: rest)

/-- A number after its sign.  A zero in front is the only digit of the whole
part. -/
def scanMagnitude (negative : Bool) : List UInt8 → Scan Number
  | [] => .error (.here .endInValue [])
  | octet :: rest =>
      match Octet.digit? octet with
      | none => .error (.here .numberMalformed rest)
      | some 0 =>
          if (rest.head?.bind Octet.digit?).isSome then .error (.next .numberMalformed rest)
          else scanAfterWhole negative 0 0 rest
      | some (first + 1) =>
          let taken := takeDigits (first + 1) 0 rest
          scanAfterWhole negative taken.significand (countDigits taken.rest)
            (dropDigits taken.rest)

/-- A number, from its sign or first digit on. -/
def scanNumber : List UInt8 → Scan Number
  | [] => .error (.here .endInValue [])
  | octet :: rest =>
      if octet = Octet.minus then scanMagnitude true rest
      else scanMagnitude false (octet :: rest)

/-! ## Numbers are used up -/

theorem takeDigits_length (significand count : Nat) (input : List UInt8) :
    (takeDigits significand count input).rest.length ≤ input.length := by
  induction input generalizing significand count with
  | nil => simp [takeDigits]
  | cons octet rest ih =>
      simp only [takeDigits]
      split
      · exact Nat.le_trans (ih _ _) (by simp)
      · simp

theorem dropDigits_length (input : List UInt8) : (dropDigits input).length ≤ input.length :=
  (List.dropWhile_sublist _).length_le

theorem takeExponent_length (exponent : Nat) (input : List UInt8) :
    match takeExponent exponent input with
    | .ok (_, rest) => rest.length ≤ input.length
    | .error rest => rest.length ≤ input.length := by
  induction input generalizing exponent with
  | nil => simp [takeExponent]
  | cons octet rest ih =>
      simp only [takeExponent]
      cases Octet.digit? octet with
      | none => simp
      | some digit =>
          by_cases h : exponent * 10 + digit ≤ maxExponent
          · have := ih (exponent * 10 + digit)
            simp only [h, if_true]
            split at this <;> simp_all <;> omega
          · simp [h]

theorem scaledNumber_rest {negative : Bool} {significand : Nat} {exponent : Int}
    {input rest : List UInt8} {n : Number}
    (h : scaledNumber negative significand exponent input = .ok (n, rest)) : rest = input := by
  unfold scaledNumber at h
  split at h <;> simp_all

theorem scanSign_length (input : List UInt8) : (scanSign input).2.length ≤ input.length := by
  unfold scanSign
  split
  · split
    · simp
    · split <;> simp
  · simp

theorem scanExponent_length {negative : Bool} {significand : Nat} {scale : Int}
    {input rest : List UInt8} {n : Number}
    (h : scanExponent negative significand scale input = .ok (n, rest)) :
    rest.length ≤ input.length := by
  have hsign := scanSign_length input
  unfold scanExponent at h
  split at h
  · simp at h
  · rename_i down octet tail hsplit
    rw [hsplit] at hsign
    simp only [List.length_cons] at hsign
    split at h
    · simp at h
    · rename_i first _
      have htake := takeExponent_length first tail
      split at h
      · rename_i hexp
        rw [hexp] at htake
        have := scaledNumber_rest h
        subst this
        simp at htake
        omega
      · rename_i after hexp
        rw [hexp] at htake
        simp at htake
        split at h
        · simp at h
        · simp at h
          have := dropDigits_length after
          rw [← h.2]
          omega

theorem scanScale_length {negative : Bool} {significand : Nat} {scale : Int}
    {input rest : List UInt8} {n : Number}
    (h : scanScale negative significand scale input = .ok (n, rest)) :
    rest.length ≤ input.length := by
  unfold scanScale at h
  split at h
  · have := scaledNumber_rest h
    simp [this]
  · split at h
    · have := scanExponent_length h
      simp; omega
    · have := scaledNumber_rest h
      simp [this]

theorem scanFraction_length {negative : Bool} {significand : Nat} {scale : Int}
    {input rest : List UInt8} {n : Number}
    (h : scanFraction negative significand scale input = .ok (n, rest)) :
    rest.length ≤ input.length := by
  unfold scanFraction at h
  have htake := takeDigits_length significand 0 input
  have hdrop := dropDigits_length (takeDigits significand 0 input).rest
  simp only at h
  split at h
  · simp at h
  · have := scanScale_length h
    omega

theorem scanAfterWhole_length {negative : Bool} {significand left : Nat}
    {input rest : List UInt8} {n : Number}
    (h : scanAfterWhole negative significand left input = .ok (n, rest)) :
    rest.length ≤ input.length := by
  unfold scanAfterWhole at h
  split at h
  · split at h
    · simp at h
      simp [← h.2]
    · have := scaledNumber_rest h
      simp [this]
  · split at h
    · have := scanFraction_length h
      simp; omega
    · split at h
      · have := scanExponent_length h
        simp; omega
      · split at h
        · simp at h
          simp [← h.2]
        · have := scaledNumber_rest h
          simp [this]

theorem scanMagnitude_length {negative : Bool} {input rest : List UInt8} {n : Number}
    (h : scanMagnitude negative input = .ok (n, rest)) : rest.length < input.length := by
  unfold scanMagnitude at h
  split at h
  · simp at h
  · rename_i octet tail
    split at h
    · simp at h
    · split at h
      · simp at h
      · have := scanAfterWhole_length h
        simp; omega
    · rename_i first _
      have htake := takeDigits_length (first + 1) 0 tail
      have hdrop := dropDigits_length (takeDigits (first + 1) 0 tail).rest
      have := scanAfterWhole_length h
      simp; omega

/-- A number has at least one digit. -/
theorem scanNumber_length {input rest : List UInt8} {n : Number}
    (h : scanNumber input = .ok (n, rest)) : rest.length < input.length := by
  unfold scanNumber at h
  split at h
  · simp at h
  · split at h
    · have := scanMagnitude_length h
      simp; omega
    · exact scanMagnitude_length h

end SyntaxCensus
