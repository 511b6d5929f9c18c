import SyntaxCensus.Json.Printer
import SyntaxCensus.Json.Scanner
import SyntaxCensus.Proofs.Text.Utf8

/-!
# Reading whole numbers back

The decimal text of a whole number of 64 bits is read back as that number, if
nothing follows that would go on with it.

Main definitions:

- `NumberEnds`: what follows does not go on with a number.

Main results:

- `takeDigits_digits`: digits are taken as long as 64 bits hold their number.
- `scanNumber_whole`: the text of a whole number in range is read back.
-/

namespace SyntaxCensus

/-- No digit, point or exponent follows. -/
def NumberEnds (rest : List UInt8) : Prop :=
  ∀ octet ∈ rest.head?,
    Octet.isDigit octet = false ∧ octet ≠ Octet.point ∧ Octet.isExponentMark octet = false

/-! ## Digits -/

/-- The octet of a character of the first half. -/
def octetOf (c : Char) : UInt8 := UInt8.ofNat c.toNat

/-- A digit is encoded as one octet. -/
theorem encode_digits {digits : List Char} (h : ∀ c ∈ digits, c.isDigit = true) :
    digits.flatMap String.utf8EncodeChar = digits.map octetOf := by
  induction digits with
  | nil => rfl
  | cons c more ih =>
      have hdigit : c.toNat < 0x80 :=
        Nat.lt_of_le_of_lt (Char.isDigit_iff_toNat.mp (h c List.mem_cons_self)).2 (by decide)
      rw [List.flatMap_cons, Utf8.encodeChar_ascii hdigit,
        ih fun d hd => h d (List.mem_cons_of_mem _ hd)]
      rfl

/-- The octet of a digit is worth the digit. -/
theorem digit?_octetOf {c : Char} (h : c.isDigit = true) :
    Octet.digit? (octetOf c) = some (c.toNat - '0'.toNat) := by
  have hrange := Char.isDigit_iff_toNat.mp h
  have hoctet : (octetOf c).toNat = c.toNat :=
    UInt8.toNat_ofNat_of_lt' (Nat.lt_of_le_of_lt hrange.2 (by decide))
  have hlow : (0x30 : UInt8) ≤ octetOf c := by
    rw [UInt8.le_iff_toNat_le, hoctet]
    exact hrange.1
  have hhigh : octetOf c ≤ (0x39 : UInt8) := by
    rw [UInt8.le_iff_toNat_le, hoctet]
    exact hrange.2
  simp only [Octet.digit?, hlow, hhigh, and_self, if_true, hoctet]
  rfl

/-- More digits make no smaller number. -/
theorem le_ofDigitChars (digits : List Char) (init : Nat) :
    init ≤ Nat.ofDigitChars 10 digits init := by
  rw [Nat.ofDigitChars_eq_ofDigitChars_zero]
  have hpos : 1 ≤ 10 ^ digits.length := Nat.one_le_pow _ _ (by decide)
  calc
    init = 1 * init := (Nat.one_mul init).symm
    _ ≤ 10 ^ digits.length * init := Nat.mul_le_mul_right init hpos
    _ ≤ _ := Nat.le_add_right _ _

/-- Digits are taken whole if 64 bits hold their number. -/
theorem takeDigits_digits {digits : List Char} (hdigits : ∀ c ∈ digits, c.isDigit = true)
    {rest : List UInt8} (hrest : NumberEnds rest) (significand count : Nat)
    (hfits : Nat.ofDigitChars 10 digits significand ≤ Number.maxWhole) :
    takeDigits significand count (digits.map octetOf ++ rest) =
      ⟨Nat.ofDigitChars 10 digits significand, count + digits.length, rest⟩ := by
  induction digits generalizing significand count with
  | nil =>
      cases rest with
      | nil => rfl
      | cons octet more =>
          have hnone : Octet.digit? octet = none := by
            simpa [Octet.isDigit] using (hrest octet rfl).1
          simp [takeDigits, hnone]
  | cons c more ih =>
      have hc := hdigits c List.mem_cons_self
      rw [Nat.ofDigitChars_cons, Nat.mul_comm 10] at hfits ⊢
      have hlonger := Nat.le_trans (le_ofDigitChars more _) hfits
      have happend : (Octet.digit? (octetOf c)).bind (appendDigit? significand) =
          some (significand * 10 + (c.toNat - '0'.toNat)) := by
        rw [digit?_octetOf hc]
        simp only [Option.bind_some, appendDigit?, hlonger, if_true]
      have hrec := ih (fun d hd => hdigits d (List.mem_cons_of_mem _ hd))
        (significand * 10 + (c.toNat - '0'.toNat)) (count + 1) hfits
      rw [List.map_cons, List.cons_append, takeDigits, happend]
      simp only [hrec, List.length_cons]
      congr 1
      omega

/-- No digits stand where a number ends. -/
theorem countDigits_of_ends {rest : List UInt8} (h : NumberEnds rest) : countDigits rest = 0 := by
  cases rest with
  | nil => rfl
  | cons octet more => simp [countDigits, (h octet rfl).1]

theorem dropDigits_of_ends {rest : List UInt8} (h : NumberEnds rest) :
    dropDigits rest = rest := by
  cases rest with
  | nil => rfl
  | cons octet more => simp [dropDigits, (h octet rfl).1]

/-! ## Magnitudes -/

/-- After the whole part of a number that ends, the number is whole. -/
theorem scanAfterWhole_of_ends {rest : List UInt8} (h : NumberEnds rest) (negative : Bool)
    (significand : Nat) :
    scanAfterWhole negative significand 0 rest =
      .ok (wholeNumber negative significand, rest) := by
  cases rest with
  | nil => simp [scanAfterWhole]
  | cons octet more =>
      obtain ⟨-, hpoint, hmark⟩ := h octet rfl
      simp [scanAfterWhole, hpoint, hmark]

/-- The digits of a number other than zero do not begin with a zero. -/
theorem toDigits_eq_cons {n : Nat} (h : 0 < n) :
    ∃ d more, d + 1 < 10 ∧ Nat.toDigits 10 n = (d + 1).digitChar :: more := by
  induction n using Nat.strongRecOn with
  | ind n ih =>
      by_cases hsmall : n < 10
      · refine ⟨n - 1, [], ?_, ?_⟩
        · omega
        · rw [Nat.sub_add_cancel h, Nat.toDigits_of_lt_base hsmall]
      · obtain ⟨d, more, hlt, heq⟩ := ih (n / 10) (by omega) (by omega)
        refine ⟨d, more ++ [(n % 10).digitChar], hlt, ?_⟩
        rw [Nat.toDigits_of_base_le (by decide) (by omega), heq]
        rfl

/-- The digits of a number that 64 bits hold are read as that number. -/
theorem scanMagnitude_toDigits {n : Nat} (hfits : n ≤ Number.maxWhole) {rest : List UInt8}
    (hrest : NumberEnds rest) (negative : Bool) :
    scanMagnitude negative ((Nat.toDigits 10 n).map octetOf ++ rest) =
      .ok (wholeNumber negative n, rest) := by
  rcases Nat.eq_zero_or_pos n with rfl | hpos
  · have hzero : (Nat.toDigits 10 0).map octetOf ++ rest = 0x30 :: rest := by
      rw [Nat.toDigits_zero]
      rfl
    have hdigit : Octet.digit? 0x30 = some 0 := by decide
    have hnone : (rest.head?.bind Octet.digit?).isSome = false := by
      cases rest with
      | nil => rfl
      | cons octet more => simpa [Octet.isDigit] using (hrest octet rfl).1
    rw [hzero, scanMagnitude]
    simp only [hdigit, hnone, Bool.false_eq_true, if_false]
    exact scanAfterWhole_of_ends hrest negative 0
  · obtain ⟨d, more, hlt, heq⟩ := toDigits_eq_cons hpos
    have hall : ∀ c ∈ Nat.toDigits 10 n, c.isDigit = true := fun c hc =>
      Nat.isDigit_of_mem_toDigits (by decide) (by decide) hc
    have hvalue : Nat.ofDigitChars 10 more (d + 1) = n := by
      have h := Nat.ofDigitChars_ten_toDigits (n := n)
      rwa [heq, Nat.ofDigitChars_cons_digitChar_of_lt_ten hlt, Nat.mul_zero, Nat.zero_add] at h
    rw [heq] at hall ⊢
    have hfirst : Octet.digit? (octetOf (d + 1).digitChar) = some (d + 1) := by
      rw [digit?_octetOf (hall _ List.mem_cons_self)]
      exact congrArg some (Nat.toNat_digitChar_sub_48_of_lt_ten hlt)
    have htaken := takeDigits_digits (fun c hc => hall c (List.mem_cons_of_mem _ hc)) hrest
      (d + 1) 0 (by rw [hvalue]; exact hfits)
    rw [List.map_cons, List.cons_append, scanMagnitude]
    simp only [hfirst, htaken, hvalue, countDigits_of_ends hrest, dropDigits_of_ends hrest]
    exact scanAfterWhole_of_ends hrest negative n

/-! ## Whole numbers -/

/-- The octets of a natural number are those of its digits. -/
theorem encode_repr (n : Nat) : Utf8.encode n.repr = (Nat.toDigits 10 n).map octetOf := by
  rw [Utf8.encode_eq_flatMap, Nat.toList_repr]
  exact encode_digits fun c hc => Nat.isDigit_of_mem_toDigits (by decide) (by decide) hc

/-- The octets of a natural number begin with a digit. -/
theorem encode_repr_eq_cons (n : Nat) :
    ∃ octet more, Octet.isDigit octet = true ∧ Utf8.encode n.repr = octet :: more := by
  rw [encode_repr]
  cases hdigits : Nat.toDigits 10 n with
  | nil => exact absurd hdigits Nat.toDigits_ne_nil
  | cons c more =>
      have hc : c.isDigit = true :=
        Nat.isDigit_of_mem_toDigits (by decide) (by decide) (hdigits ▸ List.mem_cons_self)
      exact ⟨octetOf c, more.map octetOf, by simp [Octet.isDigit, digit?_octetOf hc], rfl⟩

/-- The text of a whole number in range is read back as that number. -/
theorem scanNumber_whole {value : Int} (h : (Number.whole value).InRange) {rest : List UInt8}
    (hrest : NumberEnds rest) :
    scanNumber (Utf8.encode (toString value) ++ rest) = .ok (.whole value, rest) := by
  obtain ⟨hlow, hhigh⟩ := h
  by_cases hnonneg : 0 ≤ value
  · have htext : toString value = value.toNat.repr := by
      rw [Int.toString_eq_repr, Int.repr_eq_if, if_pos hnonneg]
    obtain ⟨octet, more, hdigit, heq⟩ := encode_repr_eq_cons value.toNat
    have hne : octet ≠ Octet.minus := by
      intro hminus
      rw [hminus] at hdigit
      exact absurd hdigit (by decide)
    have hmagnitude := scanMagnitude_toDigits (n := value.toNat) (by omega) hrest false
    have hwhole : wholeNumber false value.toNat = .whole value := by
      simp only [wholeNumber, if_true]
      congr 1
      omega
    rw [← encode_repr, heq, List.cons_append, hwhole] at hmagnitude
    rw [htext, heq, List.cons_append, scanNumber, if_neg hne, hmagnitude]
  · have htext : toString value = "-" ++ (-value).toNat.repr := by
      rw [Int.toString_eq_repr, Int.repr_eq_if, if_neg hnonneg]
    have hpos : 0 < (-value).toNat := by omega
    have hle : (-value).toNat ≤ Number.maxNegative := by omega
    have hminus : Utf8.encode "-" = [Octet.minus] := by decide
    have hwhole : wholeNumber true (-value).toNat = .whole value := by
      simp only [wholeNumber, Bool.true_eq_false, if_false, hpos, hle, and_self, if_true]
      congr 1
      omega
    rw [htext, Utf8.encode_append, hminus, encode_repr, List.singleton_append, List.cons_append,
      scanNumber, if_pos rfl,
      scanMagnitude_toDigits (Nat.le_trans hle (by decide)) hrest, hwhole]

end SyntaxCensus
