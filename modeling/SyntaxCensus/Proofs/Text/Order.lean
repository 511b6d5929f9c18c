import Mathlib.Tactic.SplitIfs
import SyntaxCensus.Proofs.Text.Utf8

/-!
# The order of texts and of their octets

Texts are compared by their code points.  Comparing their octets gives the same
order: the first octet of a character grows with its code point, and characters
with the same first octet have equally many octets, which are the digits of the
code point.

Main definitions:

- `Utf8.lead`, `Utf8.continuation`: the octets of a code point.

Main results:

- `Utf8.encodeChar_append_lt`: a greater character has greater octets.
- `Utf8.encode_lt_encode`: a greater text has greater octets.
-/

namespace SyntaxCensus
namespace Utf8

/-! ## Octets in front -/

/-- Octets whose first ones are in order, and that are in order after these if
the first ones are the same. -/
theorem cons_lt_cons_of_le {x y : Nat} {s t : List UInt8} (hy : y < 0x100) (hle : x ≤ y)
    (hrest : x = y → s < t) : UInt8.ofNat x :: s < UInt8.ofNat y :: t := by
  rcases Nat.lt_or_eq_of_le hle with hlt | heq
  · have hoctet : UInt8.ofNat x < UInt8.ofNat y := by
      rw [UInt8.lt_iff_toNat_lt, UInt8.toNat_ofNat_of_lt' hy,
        UInt8.toNat_ofNat_of_lt' (Nat.lt_trans hlt hy)]
      exact hlt
    exact List.cons_lt_cons_iff.mpr (.inl hoctet)
  · exact List.cons_lt_cons_iff.mpr (.inr ⟨congrArg UInt8.ofNat heq, hrest heq⟩)

/-! ## One character -/

/-- The first octet of a code point, which tells how many follow. -/
def lead (n : Nat) : Nat :=
  if n ≤ 0x7F then n
  else if n ≤ 0x7FF then n / 64 % 0x20 + 0xC0
  else if n ≤ 0xFFFF then n / 4096 % 0x10 + 0xE0
  else n / 262144 % 0x08 + 0xF0

/-- The octets of a code point after the first one. -/
def continuation (n : Nat) : List UInt8 :=
  if n ≤ 0x7F then []
  else if n ≤ 0x7FF then [UInt8.ofNat (n % 0x40 + 0x80)]
  else if n ≤ 0xFFFF then [UInt8.ofNat (n / 64 % 0x40 + 0x80), UInt8.ofNat (n % 0x40 + 0x80)]
  else
    [UInt8.ofNat (n / 4096 % 0x40 + 0x80), UInt8.ofNat (n / 64 % 0x40 + 0x80),
      UInt8.ofNat (n % 0x40 + 0x80)]

/-- A character is encoded as a first octet and what continues it. -/
theorem encodeChar_eq (c : Char) :
    String.utf8EncodeChar c = UInt8.ofNat (lead c.toNat) :: continuation c.toNat := by
  have hval : c.toNat = c.val.toNat := rfl
  simp only [String.utf8EncodeChar, lead, continuation, hval]
  split_ifs <;> rfl

theorem lead_lt {n : Nat} (h : n < 0x110000) : lead n < 0x100 := by
  unfold lead
  split_ifs <;> omega

/-- A greater code point has no smaller first octet. -/
theorem lead_le_lead {n m : Nat} (hlt : n < m) (hmax : m < 0x110000) : lead n ≤ lead m := by
  unfold lead
  split_ifs <;> omega

/-- Of two code points with one first octet the greater one has the greater
octets after it. -/
theorem continuation_append_lt {n m : Nat} (hlt : n < m) (hmax : m < 0x110000)
    (hlead : lead n = lead m) (s t : List UInt8) :
    continuation n ++ s < continuation m ++ t := by
  unfold lead at hlead
  unfold continuation
  -- one first octet means one number of octets; they are the digits of the code point
  split_ifs at hlead ⊢ <;> try omega
  · exact cons_lt_cons_of_le (by omega) (by omega) fun h => absurd h (by omega)
  · exact cons_lt_cons_of_le (by omega) (by omega) fun _ =>
      cons_lt_cons_of_le (by omega) (by omega) fun h => absurd h (by omega)
  · exact cons_lt_cons_of_le (by omega) (by omega) fun _ =>
      cons_lt_cons_of_le (by omega) (by omega) fun _ =>
        cons_lt_cons_of_le (by omega) (by omega) fun h => absurd h (by omega)

/-- A greater character has greater octets, whatever follows them. -/
theorem encodeChar_append_lt {c d : Char} (h : c < d) (s t : List UInt8) :
    String.utf8EncodeChar c ++ s < String.utf8EncodeChar d ++ t := by
  have hlt : c.toNat < d.toNat := h
  have hmax : d.toNat < 0x110000 := by
    rcases d.valid with hvalid | hvalid
    · exact Nat.lt_trans hvalid (by decide)
    · exact hvalid.2
  rw [encodeChar_eq, encodeChar_eq]
  exact cons_lt_cons_of_le (lead_lt hmax) (lead_le_lead hlt hmax) fun heq =>
    continuation_append_lt hlt hmax heq s t

/-! ## Texts -/

/-- The octets of a greater text are greater. -/
theorem encode_lt_encode {a b : String} (h : a < b) : encode a < encode b := by
  rw [encode_eq_flatMap, encode_eq_flatMap]
  have hlex : List.Lex (· < ·) a.toList b.toList := h
  generalize a.toList = first at hlex
  generalize b.toList = second at hlex
  induction hlex with
  | nil =>
      rw [List.flatMap_cons, encodeChar_eq]
      exact List.nil_lt_cons _ _
  | rel hlt =>
      rw [List.flatMap_cons, List.flatMap_cons]
      exact encodeChar_append_lt hlt _ _
  | cons _ ih =>
      rw [List.flatMap_cons, List.flatMap_cons]
      exact List.append_left_lt ih

end Utf8
end SyntaxCensus
