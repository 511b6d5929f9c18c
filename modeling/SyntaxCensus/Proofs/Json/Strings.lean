import SyntaxCensus.Json.Printer
import SyntaxCensus.Json.Scanner
import SyntaxCensus.Proofs.Text.Utf8

/-!
# Reading quoted text back

A text between quotes is read back as that text, whatever characters it has:
each character is one escape, or octets none of which has a meaning inside
quotes.

Main results:

- `scanStringOnto_escaped`: one character is read as its own octets.
- `scanString_quoted`: a quoted text is read back whole.
-/

namespace SyntaxCensus

/-! ## Octets that stand for themselves -/

/-- An octet without a meaning of its own inside quotes. -/
def Octet.IsPlain (octet : UInt8) : Prop :=
  octet ≠ Octet.quote ∧ octet ≠ Octet.backslash ∧ ¬ octet < 0x20

/-- An octet that is neither a quote, a backslash nor a control character is content. -/
theorem scanStringOnto_plain {octet : UInt8} (h : Octet.IsPlain octet)
    (content rest : List UInt8) :
    scanStringOnto content (octet :: rest) = scanStringOnto (octet :: content) rest := by
  obtain ⟨hquote, hbackslash, hcontrol⟩ := h
  rw [scanStringOnto]
  simp [hquote, hbackslash, hcontrol]

theorem scanStringOnto_plains {octets : List UInt8} (h : ∀ octet ∈ octets, Octet.IsPlain octet)
    (content rest : List UInt8) :
    scanStringOnto content (octets ++ rest) =
      scanStringOnto (octets.reverse ++ content) rest := by
  induction octets generalizing content with
  | nil => rfl
  | cons octet more ih =>
      rw [List.cons_append, scanStringOnto_plain (h octet List.mem_cons_self),
        ih fun other hother => h other (List.mem_cons_of_mem _ hother)]
      simp

/-- An escape is read as the octets that it stands for. -/
theorem scanStringOnto_escape {input octets after : List UInt8}
    (h : scanEscape input = .ok (octets, after)) (content : List UInt8) :
    scanStringOnto content (Octet.backslash :: input) =
      scanStringOnto (octets.reverse ++ content) after := by
  have hquote : Octet.backslash ≠ Octet.quote := by decide
  rw [scanStringOnto]
  simp only [hquote, if_false, if_true]
  split
  · rename_i stop hstop
    simp [h] at hstop
  · rename_i octets' after' hok
    simp only [h, Except.ok.injEq, Prod.mk.injEq] at hok
    rw [hok.1, hok.2]

/-! ## One character -/

/-- The octet of a hexadecimal digit is worth that digit. -/
theorem hexDigit?_hexDigit : ∀ n, n < 16 →
    (Json.hexDigit n).toNat < 0x80 ∧
      Octet.hexDigit? (UInt8.ofNat (Json.hexDigit n).toNat) = some n := by
  decide

/-- Four hexadecimal digits below the blank spell their code point. -/
theorem scanEscape_codePoint {c : Char} (h : c.toNat < 0x20) (rest : List UInt8) :
    scanEscape (0x75 :: 0x30 :: 0x30 :: UInt8.ofNat (Json.hexDigit (c.toNat / 16)).toNat ::
        UInt8.ofNat (Json.hexDigit (c.toNat % 16)).toNat :: rest) =
      .ok (String.utf8EncodeChar c, rest) := by
  have hhigh := (hexDigit?_hexDigit (c.toNat / 16) (by omega)).2
  have hlow := (hexDigit?_hexDigit (c.toNat % 16) (by omega)).2
  have hzero : Octet.hexDigit? 0x30 = some 0 := by decide
  have hvalue : ((0 * 16 + 0) * 16 + c.toNat / 16) * 16 + c.toNat % 16 = c.toNat := by omega
  have hnotLow : isLowSurrogate c.toNat = false := by
    unfold isLowSurrogate
    rw [decide_eq_false_iff_not]
    omega
  have hnotHigh : isHighSurrogate c.toNat = false := by
    unfold isHighSurrogate
    rw [decide_eq_false_iff_not]
    omega
  have hescape : Octet.escaped? 0x75 = none := by decide
  simp only [scanEscape, hescape, if_true, scanCodePoint, scanHex, hzero, hhigh, hlow, hvalue,
    hnotLow, hnotHigh, Bool.false_eq_true, if_false, codePointOctets, Char.ofNat_toNat]

/-- A character that is not escaped has plain octets only. -/
theorem isPlain_of_mem_encodeChar {c : Char} (hquote : c ≠ '"') (hbackslash : c ≠ '\\')
    (hcontrol : ¬ c.toNat < 0x20) :
    ∀ octet ∈ String.utf8EncodeChar c, Octet.IsPlain octet := by
  intro octet hmem
  by_cases hascii : c.toNat < 0x80
  · rw [Utf8.encodeChar_ascii hascii, List.mem_singleton] at hmem
    have htoNat : octet.toNat = c.toNat := by
      rw [hmem, UInt8.toNat_ofNat_of_lt' (Nat.lt_trans hascii (by decide))]
    have hne : ∀ d : Char, c ≠ d → octet.toNat ≠ d.toNat := by
      intro d hd heq
      exact hd (Char.toNat_inj.mp (htoNat ▸ heq))
    refine ⟨fun h => hne '"' hquote (by rw [h]; rfl), fun h => hne '\\' hbackslash (by rw [h]; rfl),
      fun h => ?_⟩
    rw [UInt8.lt_iff_toNat_lt, htoNat] at h
    exact hcontrol h
  · have hhigh := Utf8.le_of_mem_encodeChar (Nat.not_lt.mp hascii) hmem
    rw [UInt8.le_iff_toNat_le] at hhigh
    refine ⟨fun h => ?_, fun h => ?_, fun h => ?_⟩
    · rw [h] at hhigh
      exact absurd hhigh (by decide)
    · rw [h] at hhigh
      exact absurd hhigh (by decide)
    · rw [UInt8.lt_iff_toNat_lt] at h
      exact absurd (Nat.lt_of_le_of_lt hhigh h) (by decide)

/-- A backslash and a letter are read as the character that they stand for. -/
theorem scanStringOnto_letter {c letter : Char} {n : Nat} (hletter : letter.toNat < 0x80)
    (hn : n < 0x80) (hc : c.toNat = n)
    (hescape : Octet.escaped? (UInt8.ofNat letter.toNat) = some (UInt8.ofNat n))
    (content rest : List UInt8) :
    scanStringOnto content ((['\\', letter] : List Char).flatMap String.utf8EncodeChar ++ rest) =
      scanStringOnto ((String.utf8EncodeChar c).reverse ++ content) rest := by
  have hinput : (['\\', letter] : List Char).flatMap String.utf8EncodeChar ++ rest =
      Octet.backslash :: UInt8.ofNat letter.toNat :: rest := by
    simp only [List.flatMap_cons, List.flatMap_nil, Utf8.encodeChar_ascii hletter]
    rfl
  rw [hinput, scanStringOnto_escape (by rw [scanEscape, hescape]), ← hc,
    Utf8.encodeChar_ascii (by omega)]

/-- A character inside quotes is read as its own octets. -/
theorem scanStringOnto_escaped (c : Char) (content rest : List UInt8) :
    scanStringOnto content ((Json.escaped c).flatMap String.utf8EncodeChar ++ rest) =
      scanStringOnto ((String.utf8EncodeChar c).reverse ++ content) rest := by
  unfold Json.escaped
  split
  · rename_i h
    have hc : c.toNat = 0x22 := by
      rw [h]
      rfl
    exact scanStringOnto_letter (by decide) (by decide) hc (by decide) content rest
  split
  · rename_i h
    have hc : c.toNat = 0x5C := by
      rw [h]
      rfl
    exact scanStringOnto_letter (by decide) (by decide) hc (by decide) content rest
  split
  · rename_i h
    exact scanStringOnto_letter (by decide) (by decide) h (by decide) content rest
  split
  · rename_i h
    exact scanStringOnto_letter (by decide) (by decide) h (by decide) content rest
  split
  · rename_i h
    exact scanStringOnto_letter (by decide) (by decide) h (by decide) content rest
  split
  · rename_i h
    exact scanStringOnto_letter (by decide) (by decide) h (by decide) content rest
  split
  · rename_i h
    exact scanStringOnto_letter (by decide) (by decide) h (by decide) content rest
  split
  · rename_i h
    have hhigh := (hexDigit?_hexDigit (c.toNat / 16) (by omega)).1
    have hlow := (hexDigit?_hexDigit (c.toNat % 16) (by omega)).1
    simp only [List.flatMap_cons, List.flatMap_nil, Utf8.encodeChar_ascii hhigh,
      Utf8.encodeChar_ascii hlow]
    exact scanStringOnto_escape (scanEscape_codePoint h rest) content
  · rename_i hquote hbackslash _ _ _ _ _ hcontrol
    have hplain := isPlain_of_mem_encodeChar hquote hbackslash hcontrol
    rw [List.flatMap_cons, List.flatMap_nil, List.append_nil, scanStringOnto_plains hplain]

/-! ## Whole texts -/

/-- Characters inside quotes are read as their octets. -/
theorem scanStringOnto_chars (chars : List Char) (content rest : List UInt8) :
    scanStringOnto content
        ((chars.flatMap Json.escaped).flatMap String.utf8EncodeChar ++ rest) =
      scanStringOnto ((chars.flatMap String.utf8EncodeChar).reverse ++ content) rest := by
  induction chars generalizing content with
  | nil => rfl
  | cons c more ih =>
      rw [List.flatMap_cons, List.flatMap_append, List.append_assoc, scanStringOnto_escaped, ih]
      simp

/-- The octets of a quoted text begin with a quote. -/
theorem encode_quoted (text : String) :
    Utf8.encode (Json.quoted text) =
      Octet.quote :: ((text.toList.flatMap Json.escaped).flatMap String.utf8EncodeChar ++
        [Octet.quote]) := by
  rw [Json.quoted, Utf8.encode_ofList, List.flatMap_cons, List.flatMap_append]
  rfl

/-- A quoted text is read back whole, from its opening quote on. -/
theorem scanString_quoted (text : String) (rest : List UInt8) :
    scanString ((text.toList.flatMap Json.escaped).flatMap String.utf8EncodeChar ++
      Octet.quote :: rest) = .ok (text, rest) := by
  rw [scanString, scanStringOnto_chars, ← Utf8.encode_eq_flatMap, scanStringOnto]
  simp [finishString, Utf8.decode?_encode]

end SyntaxCensus
