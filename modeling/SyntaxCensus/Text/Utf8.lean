/-!
# UTF-8 octets

Documents, files and compiler output are lists of octets.  A list of octets is
read either strictly, as text or not at all, or part by part: each part is one
character or a maximal run of octets that begins no character, and a run is
shown as U+FFFD.

Main results:

- `Utf8.decode?_encode`: the octets of a text read back as that text.
-/

namespace SyntaxCensus
namespace Utf8

/-- The octets of a text. -/
def encode (text : String) : List UInt8 :=
  text.toUTF8.data.toList

/-- The text with these octets, if they are valid UTF-8. -/
def decode? (octets : List UInt8) : Option String :=
  String.fromUTF8? ⟨octets.toArray⟩

/-- The octets of a text read back as that text. -/
theorem decode?_encode (text : String) : decode? (encode text) = some text := by
  have hvalid : (⟨(encode text).toArray⟩ : ByteArray) = text.toByteArray := by
    simp [encode]
  rw [decode?, hvalid, String.fromUTF8?, dif_pos text.isValidUTF8]
  rfl

/-! ## Parts -/

/-- A stretch of octets: one character with its number of octets, or a maximal
invalid run with its length. -/
inductive Part where
  | character (value : Char) (size : Nat)
  | invalid (size : Nat)
  deriving DecidableEq, Repr

/-- The ranges that the octets after a leading octet must lie in; no range
list at all if no character starts with that octet. -/
def tailRanges (lead : UInt8) : Option (List (UInt8 × UInt8)) :=
  if lead ≤ 0x7F then some []
  else if lead < 0xC2 then none
  else if lead ≤ 0xDF then some [(0x80, 0xBF)]
  else if lead = 0xE0 then some [(0xA0, 0xBF), (0x80, 0xBF)]
  else if lead = 0xED then some [(0x80, 0x9F), (0x80, 0xBF)]
  else if lead ≤ 0xEF then some [(0x80, 0xBF), (0x80, 0xBF)]
  else if lead = 0xF0 then some [(0x90, 0xBF), (0x80, 0xBF), (0x80, 0xBF)]
  else if lead ≤ 0xF3 then some [(0x80, 0xBF), (0x80, 0xBF), (0x80, 0xBF)]
  else if lead = 0xF4 then some [(0x80, 0x8F), (0x80, 0xBF), (0x80, 0xBF)]
  else none

/-- How many octets in front lie in the ranges given for them. -/
def countInRanges : List (UInt8 × UInt8) → List UInt8 → Nat
  | (low, high) :: ranges, octet :: rest =>
      if low ≤ octet ∧ octet ≤ high then countInRanges ranges rest + 1 else 0
  | _, _ => 0

/-- The code point that a leading octet and its tail spell. -/
def codePoint (lead : UInt8) (tail : List UInt8) : Nat :=
  let leadBits :=
    match tail.length with
    | 0 => lead.toNat
    | 1 => lead.toNat % 0x20
    | 2 => lead.toNat % 0x10
    | _ => lead.toNat % 0x08
  tail.foldl (fun bits octet => bits * 0x40 + octet.toNat % 0x40) leadBits

/-- The part that starts with an octet, given the octets after it. -/
def firstPart (lead : UInt8) (rest : List UInt8) : Part :=
  match tailRanges lead with
  | none => .invalid 1
  | some ranges =>
      if countInRanges ranges rest = ranges.length then
        .character (Char.ofNat (codePoint lead (rest.take ranges.length))) (ranges.length + 1)
      else .invalid (countInRanges ranges rest + 1)

/-- The number of octets of a part. -/
def Part.size : Part → Nat
  | .character _ size => size
  | .invalid size => size

/-- The parts of a list of octets, put in front of those already found in
reverse. -/
def partsOnto (found : List Part) : List UInt8 → List Part
  | [] => found.reverse
  | lead :: rest =>
      partsOnto (firstPart lead rest :: found) (rest.drop ((firstPart lead rest).size - 1))
  termination_by octets => octets.length
  decreasing_by
    simp only [List.length_drop, List.length_cons]
    exact Nat.lt_succ_of_le (Nat.sub_le _ _)

/-- The parts of a list of octets in order. -/
def parts (octets : List UInt8) : List Part :=
  partsOnto [] octets

/-- The character that a part is shown as. -/
def Part.shown : Part → Char
  | .character value _ => value
  | .invalid _ => Char.ofNat 0xFFFD

/-- The text of any octets, each maximal invalid run shown as U+FFFD. -/
def decodeLossy (octets : List UInt8) : String :=
  String.ofList ((parts octets).map Part.shown)

/-- Whether a part is a character. -/
def Part.isCharacter : Part → Bool
  | .character _ _ => true
  | .invalid _ => false

/-- How many octets come before the first invalid one. -/
def validLength (octets : List UInt8) : Nat :=
  ((parts octets).takeWhile Part.isCharacter).foldl (fun length part => length + part.size) 0

end Utf8
end SyntaxCensus
