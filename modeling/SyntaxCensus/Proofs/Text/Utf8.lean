import SyntaxCensus.Text.Utf8

/-!
# Octets of texts

The octets of a text are those of its characters one after the other.  A
character of the first half of an octet is that octet, and the octets of every
other character lie in the second half, so octets with a meaning of their own
never occur inside a character.

Main results:

- `Utf8.encode_append`, `Utf8.encode_ofList`: octets of joined texts.
- `Utf8.encodeChar_ascii`: a character of the first half is one octet.
- `Utf8.le_of_mem_encodeChar`: all others have octets of the second half.
-/

namespace SyntaxCensus
namespace Utf8

/-! ## Joined texts -/

theorem encode_append (first second : String) :
    encode (first ++ second) = encode first ++ encode second := by
  simp [encode]

/-- The octets of characters are those of each of them. -/
theorem encode_ofList (chars : List Char) :
    encode (String.ofList chars) = chars.flatMap String.utf8EncodeChar := by
  simp [encode, List.utf8Encode]

theorem encode_eq_flatMap (text : String) :
    encode text = text.toList.flatMap String.utf8EncodeChar := by
  rw [← encode_ofList, String.ofList_toList]

theorem encode_empty : encode "" = [] := rfl

/-- A text that begins with a mark of one octet. -/
theorem encode_mark_append {mark : String} {octet : UInt8} (h : encode mark = [octet])
    (text : String) : encode (mark ++ text) = octet :: encode text := by
  rw [encode_append, h]
  rfl

/-! ## Octets of one character -/

/-- A character of the first half is one octet. -/
theorem encodeChar_ascii {c : Char} (h : c.toNat < 0x80) :
    String.utf8EncodeChar c = [UInt8.ofNat c.toNat] := by
  have hle : c.val.toNat ≤ 0x7F := Nat.le_of_lt_succ h
  simp only [String.utf8EncodeChar, hle, if_true]
  rfl

/-- The octets of any other character are in the second half. -/
theorem le_of_mem_encodeChar {c : Char} (h : 0x80 ≤ c.toNat) {octet : UInt8}
    (hmem : octet ∈ String.utf8EncodeChar c) : 0x80 ≤ octet := by
  have hlead : ¬ c.val.toNat ≤ 0x7F := Nat.not_le.mpr h
  have hhigh : ∀ n : Nat, 0x80 ≤ n → n < 0x100 → 0x80 ≤ UInt8.ofNat n := by
    intro n hn hlt
    rw [UInt8.le_iff_toNat_le, UInt8.toNat_ofNat_of_lt' hlt]
    exact hn
  simp only [String.utf8EncodeChar, hlead, if_false] at hmem
  split at hmem
  · simp only [List.mem_cons, List.not_mem_nil, or_false] at hmem
    rcases hmem with rfl | rfl <;> exact hhigh _ (by omega) (by omega)
  · split at hmem
    · simp only [List.mem_cons, List.not_mem_nil, or_false] at hmem
      rcases hmem with rfl | rfl | rfl <;> exact hhigh _ (by omega) (by omega)
    · simp only [List.mem_cons, List.not_mem_nil, or_false] at hmem
      rcases hmem with rfl | rfl | rfl | rfl <;> exact hhigh _ (by omega) (by omega)

end Utf8
end SyntaxCensus
