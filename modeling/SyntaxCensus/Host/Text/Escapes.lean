import SyntaxCensus.Host.Text.Numeral

/-!
# Escapes in printed text

A backslash with a letter, with octal digits or with hexadecimal ones stands
for other characters in the texts that are printed.

Main definitions:

- `EscapeStyle`: which escapes have a meaning.
- `EscapeStyle.read`: what a backslash begins.
- `EscapeStyle.unescape`: a text with its escapes replaced.
-/

namespace SyntaxCensus

/-- Which escapes have a meaning: hexadecimal digits behind an `x`, the number
of a character behind a `u`, octal digits with or without a zero in front of
them, marks that stand for themselves, a capital `E`, and a `c` that ends the
text.  A backslash without a meaning may keep the character behind it. -/
structure EscapeStyle where
  hexadecimal : Bool
  numbered : Bool
  zeroFirst : Bool
  bareOctal : Bool
  marks : NarrowText
  capital : Bool
  ends : Bool
  keepsNext : Bool
  deriving DecidableEq, Repr

namespace EscapeStyle

/-- The escapes of texts that a shell prints. -/
def plain : EscapeStyle := ⟨false, false, true, true, [], false, true, false⟩

/-- The escapes of the formats of a shell. -/
def plainFormat : EscapeStyle := ⟨false, false, false, true, [], false, false, false⟩

/-- The escapes of texts that tools print. -/
def extended : EscapeStyle := ⟨true, false, true, true, [], false, true, true⟩

/-- The escapes of the formats of tools. -/
def extendedFormat : EscapeStyle := ⟨true, true, false, true, ['"'], false, true, true⟩

/-- The escapes of texts between quotes that a shell reads. -/
def quotedText : EscapeStyle := ⟨true, true, false, true, ['"', '\'', '?'], true, false, true⟩

/-- The escapes of lines in the extended language of a shell. -/
def richLine : EscapeStyle := ⟨true, true, true, false, [], true, true, true⟩

/-- The escapes of values in the extended language of a shell. -/
def richValue : EscapeStyle := ⟨true, true, true, true, ['"', '\'', '?'], true, true, true⟩

/-- The escapes of formats in the extended language of a shell. -/
def richFormat : EscapeStyle := ⟨true, true, false, true, ['"', '\'', '?'], true, false, true⟩

/-- The character that a letter after a backslash stands for. -/
def letter? : Char → Option Char
  | '\\' => some '\\'
  | 'a' => some '\x07'
  | 'b' => some '\x08'
  | 'e' => some '\x1b'
  | 'f' => some '\x0c'
  | 'n' => some '\n'
  | 'r' => some '\r'
  | 't' => some '\t'
  | 'v' => some '\x0b'
  | _ => none

/-- The digits of a base in front, at most `limit` of them. -/
def digitsInFront (base limit : Nat) (text : NarrowText) : NarrowText :=
  (text.take limit).takeWhile (Numeral.isDigitOf base)

/-- The octet of a number, cut to its lowest bits. -/
def octet (value : Nat) : Char :=
  Char.ofNat (value % 256)

/-- A character with a number as it is shown where only the first 128 of them
are known. -/
def numberedCharacter (value : Nat) : NarrowText :=
  let digits := Numeral.digits 16 true value
  if value < 128 then [Char.ofNat value]
  else if value < 65536 then '\\' :: 'u' :: List.replicate (4 - digits.length) '0' ++ digits
  else '\\' :: 'U' :: List.replicate (8 - digits.length) '0' ++ digits

/-- What a backslash begins: the text that it stands for, and how many
characters behind it belong to it. -/
def read (style : EscapeStyle) (text : NarrowText) : NarrowText × Nat :=
  let skipped :=
    match text with
    | '0' :: c :: _ => if style.zeroFirst && Numeral.isDigitOf 8 c then 1 else 0
    | _ => 0
  let octal :=
    if style.bareOctal || text.head? = some '0' then digitsInFront 8 3 (text.drop skipped)
    else []
  if !octal.isEmpty then ([octet (Numeral.ofDigits 8 octal)], skipped + octal.length)
  else
    match text with
    | [] => (['\\'], 0)
    | c :: rest =>
        match letter? c with
        | some found => ([found], 1)
        | none =>
            let hexadecimal := digitsInFront 16 2 rest
            if style.marks.contains c then ([c], 1)
            else if c = 'E' ∧ style.capital = true then (['\x1b'], 1)
            else if c = 'x' ∧ style.hexadecimal = true ∧ hexadecimal.isEmpty = false then
              ([octet (Numeral.ofDigits 16 hexadecimal)], hexadecimal.length + 1)
            else if (c = 'u' ∨ c = 'U') ∧ style.numbered = true ∧ isNumber c rest = true then
              let digits := digitsInFront 16 (if c = 'u' then 4 else 8) rest
              (numberedCharacter (Numeral.ofDigits 16 digits), digits.length + 1)
            else if style.keepsNext then (['\\', c], 1)
            else (['\\'], 0)
where
  /-- There is a digit behind the letter for the number of a character. -/
  isNumber (letter : Char) (rest : NarrowText) : Bool :=
    !(digitsInFront 16 (if letter = 'u' then 4 else 8) rest).isEmpty

/-- A text with its escapes replaced, put behind what is already found in
reverse.  The flag says that an escape `\c` ended the text. -/
def unescapeOnto (style : EscapeStyle) (found : NarrowText) : NarrowText → NarrowText × Bool
  | [] => (found.reverse, false)
  | c :: rest =>
      if c ≠ '\\' then unescapeOnto style (c :: found) rest
      else if rest.head? = some 'c' ∧ style.ends = true then (found.reverse, true)
      else
        let (meaning, size) := style.read rest
        unescapeOnto style (meaning.reverse ++ found) (rest.drop size)
  termination_by text => text.length
  decreasing_by
    all_goals simp only [List.length_drop, List.length_cons]
    all_goals omega

/-- A text with its escapes replaced, and whether an escape `\c` ended it. -/
def unescape (style : EscapeStyle) (text : NarrowText) : NarrowText × Bool :=
  unescapeOnto style [] text

end EscapeStyle
end SyntaxCensus
