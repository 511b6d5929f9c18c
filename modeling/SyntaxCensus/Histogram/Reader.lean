import SyntaxCensus.Histogram.Basic
import SyntaxCensus.Json.Reader

/-!
# Reading a histogram from text

An object of counts is read member by member, and each value is required to be
a count where it stands.  So a value of the wrong kind is reported at its
place in the text, even if a later member has the same key; of several counts
for one kind the last one counts.

Main definitions:

- `Histogram.parse`: the histogram of a text.
-/

namespace SyntaxCensus
namespace Histogram

/-- What a message says of the value that comes next.  A container is not
entered. -/
def scanShape : List UInt8 → Scan Shape
  | [] => .error (.next .endInValue [])
  | octet :: rest =>
      if octet = Octet.openBracket then .ok (.sequence, octet :: rest)
      else if octet = Octet.openBrace then .ok (.map, octet :: rest)
      else
        match scanScalar (octet :: rest) with
        | .error stop => .error stop
        | .ok (value, after) => .ok (.ofJson value, after)

/-- Stop after a value that is not what was expected. -/
def mismatchAt {α : Type} (expected : Shape → Mismatch) (input : List UInt8) : Scan α :=
  match scanShape input with
  | .error stop => .error stop
  | .ok (shape, rest) => .error (.here (.mismatch (expected shape)) rest)

/-- A count after a colon. -/
def scanCount (input : List UInt8) : Scan Nat :=
  match skipBlanks input with
  | [] => .error (.next .endInValue [])
  | octet :: rest =>
      if octet = Octet.minus ∨ Octet.isDigit octet = true then
        match scanNumber (octet :: rest) with
        | .error stop => .error stop
        | .ok (n, after) =>
            match countOf (.number n) with
            | .error reason => .error (.here (.mismatch reason) after)
            | .ok count => .ok (count, after)
      else mismatchAt .notCount (octet :: rest)

theorem scanCount_length {input rest : List UInt8} {count : Nat}
    (h : scanCount input = .ok (count, rest)) : rest.length < input.length := by
  have hskip := skipBlanks_length input
  unfold scanCount at h
  split at h
  · simp at h
  · rename_i heq
    rw [heq] at hskip
    split at h
    · split at h
      · simp at h
      · rename_i hnumber
        have := scanNumber_length hnumber
        split at h
        · simp at h
        · simp at h
          rw [← h.2]; omega
    · unfold mismatchAt at h
      split at h <;> simp at h

/-- The members of an object from the value of `kind` on; `done` is what has
been read, in reverse. -/
def scanCounts (done : List (String × Nat)) (kind : String) (input : List UInt8) :
    Scan (List (String × Nat)) :=
  match _h : scanCount input with
  | .error stop => .error stop
  | .ok (count, rest) =>
      match _h' : scanNextKey rest with
      | .error stop => .error stop
      | .ok (some next, after) => scanCounts ((kind, count) :: done) next after
      | .ok (none, after) => .ok (((kind, count) :: done).reverse, after)
  termination_by input.length
  decreasing_by
    have := scanCount_length _h
    have := scanNextKey_length _h'
    omega

/-- An object of counts. -/
def scanObject (input : List UInt8) : Scan (List (String × Nat)) :=
  match skipBlanks input with
  | [] => .error (.next .endInValue [])
  | octet :: rest =>
      if octet = Octet.openBrace then
        match scanFirstKey rest with
        | .error stop => .error stop
        | .ok (some kind, after) => scanCounts [] kind after
        | .ok (none, after) => .ok ([], after)
      else mismatchAt .notMap (octet :: rest)

/-- The histogram of octets that hold one object of counts. -/
def read (octets : List UInt8) : Except Stop Histogram :=
  match scanObject octets with
  | .error stop => .error stop
  | .ok (counts, rest) =>
      match skipBlanks rest with
      | [] => .ok (ofPairs (Keyed.ofBindings counts))
      | octet :: more => .error (.next .trailingCharacters (octet :: more))

/-- The histogram of a text that is an object of counts. -/
def parse (text : String) : Except ReadError Histogram :=
  let octets := Utf8.encode text
  (read octets).mapError (ReadError.ofStop .text octets)

end Histogram
end SyntaxCensus
