import Mathlib.Data.List.Forall2
import Mathlib.Tactic.SplitIfs
import SyntaxCensus.Proofs.Text.Order

/-!
# Reading octets strictly and by parts

The octets of one character are a leading octet and a tail whose octets lie in
the ranges that the leading one sets.  Reading by parts takes such stretches for
characters, and nothing else, so octets are valid exactly if all of their parts
are characters; and then both ways of reading give the same text.

Main definitions:

- `Utf8.Spells`: a leading octet and a tail as they stand in a text.

Main results:

- `Utf8.spells_iff`: leading octets and tails are the octets of characters.
- `Utf8.parts_encode`: the parts of the octets of a text are its characters.
- `Utf8.decode?_eq_none_iff`: invalid octets have a part that is no character.
- `Utf8.decodeLossy_of_decode?`: valid octets are shown as the text they are.
-/

namespace SyntaxCensus
namespace Utf8

/-! ## Leading octets -/

section Leads

variable {first : UInt8}

theorem tailRanges_one (h : first ≤ 0x7F) : tailRanges first = some [] := by
  unfold tailRanges
  grind

/-- Two octets: the first one that is not overlong is `0xC2`. -/
theorem tailRanges_two (hlow : 0xC2 ≤ first) (hhigh : first ≤ 0xDF) :
    tailRanges first = some [(0x80, 0xBF)] := by
  unfold tailRanges
  grind

/-- Three octets, without the overlong ones and the surrogates. -/
theorem tailRanges_three (hlow : 0xE0 ≤ first) (hhigh : first ≤ 0xEF) :
    tailRanges first =
      some [(if first = 0xE0 then 0xA0 else 0x80, if first = 0xED then 0x9F else 0xBF),
        (0x80, 0xBF)] := by
  unfold tailRanges
  grind

/-- Four octets, without the overlong ones and those that are too large. -/
theorem tailRanges_four (hlow : 0xF0 ≤ first) (hhigh : first ≤ 0xF4) :
    tailRanges first =
      some [(if first = 0xF0 then 0x90 else 0x80, if first = 0xF4 then 0x8F else 0xBF),
        (0x80, 0xBF), (0x80, 0xBF)] := by
  unfold tailRanges
  grind

/-- The blocks of octets that characters start with. -/
theorem first_cases {ranges : List (UInt8 × UInt8)} (h : tailRanges first = some ranges) :
    first ≤ 0x7F ∨ (0xC2 ≤ first ∧ first ≤ 0xDF) ∨ (0xE0 ≤ first ∧ first ≤ 0xEF) ∨
      (0xF0 ≤ first ∧ first ≤ 0xF4) := by
  unfold tailRanges at h
  grind

end Leads

/-! ## Octets of one character -/

/-- An octet lies in a range. -/
def LiesIn (range : UInt8 × UInt8) (octet : UInt8) : Prop :=
  range.1 ≤ octet ∧ octet ≤ range.2

/-- A leading octet is followed by a tail whose octets lie in its ranges. -/
def Spells (first : UInt8) (tail : List UInt8) : Prop :=
  ∃ ranges, tailRanges first = some ranges ∧ List.Forall₂ LiesIn ranges tail

/-- A leading octet and a tail are the octets of the code point that they spell. -/
def Canonical (first : UInt8) (tail : List UInt8) : Prop :=
  (codePoint first tail).isValidChar ∧ lead (codePoint first tail) = first.toNat ∧
    continuation (codePoint first tail) = tail

theorem octet_eq {n : Nat} {octet : UInt8} (h : n = octet.toNat) : UInt8.ofNat n = octet := by
  rw [h, UInt8.ofNat_toNat]

section Blocks

variable {first a b c : UInt8}

theorem canonical_one (h : first ≤ 0x7F) : Canonical first [] := by
  have hcode : codePoint first [] = first.toNat := rfl
  rw [UInt8.le_iff_toNat_le] at h
  have hle : first.toNat ≤ 0x7F := h
  refine ⟨.inl (by omega), ?_, ?_⟩
  · rw [hcode, lead, if_pos hle]
  · rw [hcode, continuation, if_pos hle]

/-- Two octets in their ranges encode a character, and are its encoding. -/
theorem canonical_two (hlow : 0xC2 ≤ first) (hhigh : first ≤ 0xDF) (ha : 0x80 ≤ a ∧ a ≤ 0xBF) :
    Canonical first [a] := by
  have hcode : codePoint first [a] = first.toNat % 32 * 64 + a.toNat % 64 := rfl
  simp only [UInt8.le_iff_toNat_le, UInt8.reduceToNat] at hlow hhigh ha
  refine ⟨.inl (by omega), ?_, ?_⟩
  · rw [hcode, lead, if_neg (by omega), if_pos (by omega)]
    omega
  · rw [hcode, continuation, if_neg (by omega), if_pos (by omega),
      octet_eq (by omega : _ = a.toNat)]

/-- So do three, the ranges of the second one being what keeps surrogates out. -/
theorem canonical_three (hlow : 0xE0 ≤ first) (hhigh : first ≤ 0xEF)
    (ha : (if first = 0xE0 then 0xA0 else 0x80) ≤ a ∧
      a ≤ if first = 0xED then 0x9F else 0xBF) (hb : 0x80 ≤ b ∧ b ≤ 0xBF) :
    Canonical first [a, b] := by
  -- the narrower ranges leave out short code points in long form, and surrogates
  have hshort : first = 0xE0 → 0xA0 ≤ a := by grind
  have hsurrogate : first = 0xED → a ≤ 0x9F := by grind
  have ha : 0x80 ≤ a ∧ a ≤ 0xBF := by grind
  have hcode : codePoint first [a, b] =
      (first.toNat % 16 * 64 + a.toNat % 64) * 64 + b.toNat % 64 := rfl
  simp only [UInt8.le_iff_toNat_le, ← UInt8.toNat_inj, UInt8.reduceToNat] at *
  refine ⟨?_, ?_, ?_⟩
  · simp only [hcode, Nat.isValidChar]
    omega
  · rw [hcode, lead, if_neg (by omega), if_neg (by omega), if_pos (by omega)]
    omega
  · rw [hcode, continuation, if_neg (by omega), if_neg (by omega), if_pos (by omega),
      octet_eq (by omega : _ = a.toNat), octet_eq (by omega : _ = b.toNat)]

theorem canonical_four (hlow : 0xF0 ≤ first) (hhigh : first ≤ 0xF4)
    (ha : (if first = 0xF0 then 0x90 else 0x80) ≤ a ∧
      a ≤ if first = 0xF4 then 0x8F else 0xBF) (hb : 0x80 ≤ b ∧ b ≤ 0xBF)
    (hc : 0x80 ≤ c ∧ c ≤ 0xBF) : Canonical first [a, b, c] := by
  -- the narrower ranges leave out short code points in long form, and those past the last
  have hshort : first = 0xF0 → 0x90 ≤ a := by grind
  have hlast : first = 0xF4 → a ≤ 0x8F := by grind
  have ha : 0x80 ≤ a ∧ a ≤ 0xBF := by grind
  have hcode : codePoint first [a, b, c] =
      ((first.toNat % 8 * 64 + a.toNat % 64) * 64 + b.toNat % 64) * 64 + c.toNat % 64 := rfl
  simp only [UInt8.le_iff_toNat_le, ← UInt8.toNat_inj, UInt8.reduceToNat] at *
  refine ⟨?_, ?_, ?_⟩
  · simp only [hcode, Nat.isValidChar]
    omega
  · rw [hcode, lead, if_neg (by omega), if_neg (by omega), if_neg (by omega)]
    omega
  · rw [hcode, continuation, if_neg (by omega), if_neg (by omega), if_neg (by omega),
      octet_eq (by omega : _ = a.toNat), octet_eq (by omega : _ = b.toNat),
      octet_eq (by omega : _ = c.toNat)]

end Blocks

/-- A code point is spelled in one way only, by its octets. -/
theorem Spells.canonical {first : UInt8} {tail : List UInt8} (h : Spells first tail) :
    Canonical first tail := by
  obtain ⟨ranges, hranges, htail⟩ := h
  rcases first_cases hranges with hone | ⟨hlow, hhigh⟩ | ⟨hlow, hhigh⟩ | ⟨hlow, hhigh⟩
  · obtain rfl := Option.some.inj ((tailRanges_one hone).symm.trans hranges)
    cases htail
    exact canonical_one hone
  · obtain rfl := Option.some.inj ((tailRanges_two hlow hhigh).symm.trans hranges)
    obtain _ | ⟨ha, _ | _⟩ := htail
    exact canonical_two hlow hhigh ha
  · obtain rfl := Option.some.inj ((tailRanges_three hlow hhigh).symm.trans hranges)
    obtain _ | ⟨ha, _ | ⟨hb, _ | _⟩⟩ := htail
    exact canonical_three hlow hhigh ha hb
  · obtain rfl := Option.some.inj ((tailRanges_four hlow hhigh).symm.trans hranges)
    obtain _ | ⟨ha, _ | ⟨hb, _ | ⟨hc, _ | _⟩⟩⟩ := htail
    exact canonical_four hlow hhigh ha hb hc

/-- An octet after the first one holds six bits of the code point. -/
theorem toNat_digit (m : Nat) : (UInt8.ofNat (m % 0x40 + 0x80)).toNat = m % 0x40 + 0x80 := by
  have hlt : m % 0x40 < 0x40 := Nat.mod_lt m (by decide)
  exact UInt8.toNat_ofNat_of_lt' (Nat.lt_trans (Nat.add_lt_add_right hlt 0x80) (by decide))

/-- Six bits and the mark of a later octet. -/
theorem digit_range (m : Nat) : LiesIn (0x80, 0xBF) (UInt8.ofNat (m % 0x40 + 0x80)) := by
  simp only [LiesIn, UInt8.le_iff_toNat_le, toNat_digit, UInt8.reduceToNat]
  omega

section CodePoints

variable {n : Nat} {first : UInt8}

theorem spells_one (hfirst : first.toNat = n) (h : n ≤ 0x7F) :
    Spells first [] ∧ codePoint first [] = n := by
  refine ⟨⟨_, tailRanges_one ?_, .nil⟩, hfirst⟩
  rw [UInt8.le_iff_toNat_le, hfirst]
  exact h

/-- The octets of a character of eleven bits are in the table. -/
theorem spells_two (hfirst : first.toNat = n / 64 % 0x20 + 0xC0) (hlow : 0x7F < n)
    (hhigh : n ≤ 0x7FF) :
    Spells first [UInt8.ofNat (n % 0x40 + 0x80)] ∧
      codePoint first [UInt8.ofNat (n % 0x40 + 0x80)] = n := by
  have hlead : 0xC2 ≤ first ∧ first ≤ 0xDF := by
    simp only [UInt8.le_iff_toNat_le, hfirst, UInt8.reduceToNat]
    omega
  refine ⟨⟨_, tailRanges_two hlead.1 hlead.2, .cons (digit_range n) .nil⟩, ?_⟩
  change first.toNat % 32 * 64 + (UInt8.ofNat (n % 0x40 + 0x80)).toNat % 64 = n
  rw [hfirst, toNat_digit]
  omega

theorem spells_three (hfirst : first.toNat = n / 4096 % 0x10 + 0xE0) (hlow : 0x7FF < n)
    (hhigh : n ≤ 0xFFFF) (hvalid : n.isValidChar) :
    Spells first [UInt8.ofNat (n / 64 % 0x40 + 0x80), UInt8.ofNat (n % 0x40 + 0x80)] ∧
      codePoint first [UInt8.ofNat (n / 64 % 0x40 + 0x80), UInt8.ofNat (n % 0x40 + 0x80)] = n := by
  have hlead : 0xE0 ≤ first ∧ first ≤ 0xEF := by
    simp only [UInt8.le_iff_toNat_le, hfirst, UInt8.reduceToNat]
    omega
  refine ⟨⟨_, tailRanges_three hlead.1 hlead.2, .cons ?_ (.cons (digit_range n) .nil)⟩, ?_⟩
  · simp only [LiesIn, ← UInt8.toNat_inj, UInt8.le_iff_toNat_le, toNat_digit, hfirst,
      UInt8.reduceToNat, apply_ite UInt8.toNat]
    rcases hvalid with h | h <;> split_ifs <;> omega
  · change (first.toNat % 16 * 64 + (UInt8.ofNat (n / 64 % 0x40 + 0x80)).toNat % 64) * 64 +
      (UInt8.ofNat (n % 0x40 + 0x80)).toNat % 64 = n
    rw [hfirst, toNat_digit, toNat_digit]
    omega

theorem spells_four (hfirst : first.toNat = n / 262144 % 0x08 + 0xF0) (hlow : 0xFFFF < n)
    (hhigh : n < 0x110000) :
    Spells first [UInt8.ofNat (n / 4096 % 0x40 + 0x80), UInt8.ofNat (n / 64 % 0x40 + 0x80),
        UInt8.ofNat (n % 0x40 + 0x80)] ∧
      codePoint first [UInt8.ofNat (n / 4096 % 0x40 + 0x80), UInt8.ofNat (n / 64 % 0x40 + 0x80),
        UInt8.ofNat (n % 0x40 + 0x80)] = n := by
  have hlead : 0xF0 ≤ first ∧ first ≤ 0xF4 := by
    simp only [UInt8.le_iff_toNat_le, hfirst, UInt8.reduceToNat]
    omega
  refine ⟨⟨_, tailRanges_four hlead.1 hlead.2,
    .cons ?_ (.cons (digit_range _) (.cons (digit_range n) .nil))⟩, ?_⟩
  · simp only [LiesIn, ← UInt8.toNat_inj, UInt8.le_iff_toNat_le, toNat_digit, hfirst,
      UInt8.reduceToNat, apply_ite UInt8.toNat]
    split_ifs <;> omega
  · change ((first.toNat % 8 * 64 + (UInt8.ofNat (n / 4096 % 0x40 + 0x80)).toNat % 64) * 64 +
      (UInt8.ofNat (n / 64 % 0x40 + 0x80)).toNat % 64) * 64 +
      (UInt8.ofNat (n % 0x40 + 0x80)).toNat % 64 = n
    rw [hfirst, toNat_digit, toNat_digit, toNat_digit]
    omega

end CodePoints

/-- The octets of a code point spell it. -/
theorem spells_continuation {n : Nat} (hvalid : n.isValidChar) :
    Spells (UInt8.ofNat (lead n)) (continuation n) ∧
      codePoint (UInt8.ofNat (lead n)) (continuation n) = n := by
  have hmax : n < 0x110000 := by
    rcases hvalid with h | h <;> omega
  have hfirst : (UInt8.ofNat (lead n)).toNat = lead n := UInt8.toNat_ofNat_of_lt' (lead_lt hmax)
  generalize UInt8.ofNat (lead n) = first at hfirst ⊢
  unfold lead at hfirst
  unfold continuation
  split_ifs at hfirst ⊢ with hone htwo hthree
  · exact spells_one hfirst hone
  · exact spells_two hfirst (Nat.lt_of_not_le hone) htwo
  · exact spells_three hfirst (Nat.lt_of_not_le htwo) hthree hvalid
  · exact spells_four hfirst (Nat.lt_of_not_le hthree) hmax

/-- Leading octets and tails are the octets of characters. -/
theorem spells_iff {first : UInt8} {tail : List UInt8} {c : Char} :
    Spells first tail ∧ Char.ofNat (codePoint first tail) = c ↔
      String.utf8EncodeChar c = first :: tail := by
  rw [encodeChar_eq]
  constructor
  · rintro ⟨hspells, rfl⟩
    obtain ⟨hvalid, hlead, htail⟩ := hspells.canonical
    have hcode : (Char.ofNat (codePoint first tail)).toNat = codePoint first tail := by
      rw [Char.ofNat, dif_pos hvalid]
      rfl
    rw [hcode, octet_eq hlead, htail]
  · intro h
    obtain ⟨rfl, rfl⟩ := List.cons.inj h
    have hvalid : c.toNat.isValidChar := c.valid
    obtain ⟨hspells, hcode⟩ := spells_continuation hvalid
    exact ⟨hspells, by rw [hcode, Char.ofNat_toNat]⟩

/-! ## Parts -/

/-- All ranges are met exactly if as many octets in front lie in them. -/
theorem countInRanges_eq_length_iff {ranges : List (UInt8 × UInt8)} {rest : List UInt8} :
    countInRanges ranges rest = ranges.length ↔
      List.Forall₂ LiesIn ranges (rest.take ranges.length) := by
  induction ranges generalizing rest with
  | nil => simp [countInRanges]
  | cons range ranges ih =>
      cases rest with
      | nil => simp [countInRanges]
      | cons octet rest =>
          simp only [countInRanges, List.length_cons, List.take_succ_cons, List.forall₂_cons,
            LiesIn]
          split
          · rename_i hrange
            rw [Nat.add_right_cancel_iff, ih]
            exact (and_iff_right hrange).symm
          · rename_i hrange
            simp [hrange]

/-- A part that is a character is what its octets spell. -/
theorem spells_of_firstPart {first : UInt8} {rest : List UInt8} {c : Char} {size : Nat}
    (h : firstPart first rest = .character c size) :
    first :: rest.take (size - 1) = String.utf8EncodeChar c := by
  symm
  rw [← spells_iff]
  unfold firstPart at h
  split at h
  · cases h
  · rename_i ranges hranges
    split at h
    · rename_i hcount
      obtain ⟨rfl, rfl⟩ := Part.character.inj h
      exact ⟨⟨ranges, hranges, countInRanges_eq_length_iff.mp hcount⟩, rfl⟩
    · cases h

/-- The octets of a character in front are a part. -/
theorem firstPart_of_encodeChar {first : UInt8} {tail : List UInt8} {c : Char}
    (h : String.utf8EncodeChar c = first :: tail) (more : List UInt8) :
    firstPart first (tail ++ more) = .character c (tail.length + 1) := by
  obtain ⟨⟨ranges, hranges, htail⟩, hcode⟩ := spells_iff.mpr h
  have hlength : ranges.length = tail.length := htail.length_eq
  have htake : (tail ++ more).take ranges.length = tail := by
    rw [hlength, List.take_left]
  have hcount : countInRanges ranges (tail ++ more) = ranges.length := by
    rw [countInRanges_eq_length_iff, htake]
    exact htail
  simp only [firstPart, hranges, hcount, if_true, htake, hcode]
  rw [hlength]

/-- Octets are none, or those of a first part and the ones after it. -/
theorem parts_induction {motive : List UInt8 → Prop} (nil : motive [])
    (cons : ∀ first rest, motive (rest.drop ((firstPart first rest).size - 1)) →
      motive (first :: rest)) (octets : List UInt8) : motive octets :=
  partsOnto.induct (fun _ octets => motive octets) (fun _ => nil)
    (fun _ first rest ih => cons first rest ih) [] octets

/-- Parts that were found are put before those to come. -/
theorem partsOnto_eq (found : List Part) (octets : List UInt8) :
    partsOnto found octets = found.reverse ++ parts octets := by
  induction octets using parts_induction generalizing found with
  | nil => simp [parts, partsOnto]
  | cons first rest ih =>
      rw [parts, partsOnto, partsOnto, ih, ih]
      simp

/-- The first part, and the parts of the octets after it. -/
theorem parts_cons (first : UInt8) (rest : List UInt8) :
    parts (first :: rest) =
      firstPart first rest :: parts (rest.drop ((firstPart first rest).size - 1)) := by
  rw [parts, partsOnto, partsOnto_eq]
  rfl

theorem parts_nil : parts [] = [] := by
  simp [parts, partsOnto]

/-- A character in front of octets is their first part. -/
theorem parts_encodeChar_append (c : Char) (more : List UInt8) :
    parts (String.utf8EncodeChar c ++ more) =
      .character c (String.utf8EncodeChar c).length :: parts more := by
  cases h : String.utf8EncodeChar c with
  | nil => simp [encodeChar_eq] at h
  | cons first tail =>
      rw [List.cons_append, parts_cons, firstPart_of_encodeChar h]
      simp [Part.size]

/-- The parts of the octets of a text are its characters. -/
theorem parts_encode (text : String) :
    parts (encode text) =
      text.toList.map fun c => .character c (String.utf8EncodeChar c).length := by
  rw [encode_eq_flatMap]
  induction text.toList with
  | nil => exact parts_nil
  | cons c rest ih => rw [List.flatMap_cons, parts_encodeChar_append, ih, List.map_cons]

/-- The octets of a text are shown as that text. -/
theorem decodeLossy_encode (text : String) : decodeLossy (encode text) = text := by
  rw [decodeLossy, parts_encode, List.map_map]
  simp [Function.comp_def, Part.shown]

/-- If all parts are characters, then the octets are those of the text that they
are shown as. -/
theorem encode_decodeLossy {octets : List UInt8}
    (h : ∀ part ∈ parts octets, part.isCharacter = true) :
    encode (decodeLossy octets) = octets := by
  rw [decodeLossy, encode_ofList]
  induction octets using parts_induction with
  | nil =>
      rw [parts_nil]
      rfl
  | cons first rest ih =>
      rw [parts_cons, List.forall_mem_cons] at h
      cases hpart : firstPart first rest with
      | invalid size =>
          rw [hpart] at h
          cases h.1
      | character c size =>
          have hrest := ih h.2
          rw [hpart] at hrest
          rw [parts_cons, hpart, List.map_cons, List.flatMap_cons, hrest, Part.shown,
            ← spells_of_firstPart hpart, List.cons_append]
          exact congrArg _ (List.take_append_drop _ _)

/-! ## Both ways of reading -/

/-- Octets are read as a text exactly if they are its octets. -/
theorem decode?_eq_some_iff {octets : List UInt8} {text : String} :
    decode? octets = some text ↔ octets = encode text := by
  constructor
  · intro h
    unfold decode? String.fromUTF8? at h
    split at h
    · obtain rfl := Option.some.inj h
      rfl
    · cases h
  · rintro rfl
    exact decode?_encode text

/-- Octets are invalid exactly if some part of them is no character. -/
theorem decode?_eq_none_iff {octets : List UInt8} :
    decode? octets = none ↔ ∃ size, .invalid size ∈ parts octets := by
  constructor
  · intro h
    by_contra hnone
    have hcharacters : ∀ part ∈ parts octets, part.isCharacter = true := by
      intro part hpart
      cases part with
      | character => rfl
      | invalid size => exact absurd ⟨size, hpart⟩ hnone
    have hsome := decode?_eq_some_iff.mpr (encode_decodeLossy hcharacters).symm
    rw [h] at hsome
    cases hsome
  · rintro ⟨size, hpart⟩
    rw [Option.eq_none_iff_forall_ne_some]
    intro text htext
    rw [decode?_eq_some_iff.mp htext, parts_encode, List.mem_map] at hpart
    obtain ⟨c, -, hc⟩ := hpart
    cases hc

/-- Valid octets are shown as the text that they are. -/
theorem decodeLossy_of_decode? {octets : List UInt8} {text : String}
    (h : decode? octets = some text) : decodeLossy octets = text := by
  rw [decode?_eq_some_iff.mp h, decodeLossy_encode]

end Utf8
end SyntaxCensus
