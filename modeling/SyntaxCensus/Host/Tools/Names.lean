import SyntaxCensus.Host.Text.Numeral

/-!
# Names in messages

A message shows the name of a file so that a shell would read it as one word,
and other texts between quotation marks with their escapes.

Main definitions:

- `Shown.word`: a text as one word of a shell.
- `Shown.quotedWord`: the same, always in quotes.
- `Shown.text`: a text between quotation marks.
-/

namespace SyntaxCensus
namespace Shown

/-- A character that can be seen, or a blank. -/
def isPrintable (c : Char) : Bool :=
  decide (32 ≤ c.toNat) && decide (c.toNat < 127)

/-- The letter of the escape for a control character. -/
def escapeLetter? : Char → Option Char
  | '\x07' => some 'a'
  | '\x08' => some 'b'
  | '\x0c' => some 'f'
  | '\n' => some 'n'
  | '\r' => some 'r'
  | '\t' => some 't'
  | '\x0b' => some 'v'
  | _ => none

/-- The escape for a character that cannot be seen. -/
def escape (c : Char) : NarrowText :=
  match escapeLetter? c with
  | some letter => ['\\', letter]
  | none =>
      let n := c.toNat
      '\\' :: [n / 64, n / 8 % 8, n % 8].map (Numeral.digitOf false)

/-- A text between quotation marks. -/
def text (value : NarrowText) : NarrowText :=
  '\'' :: value.flatMap (fun c =>
    if c = '\'' ∨ c = '\\' then ['\\', c] else if isPrintable c then [c] else escape c) ++ ['\'']

/-- The characters at which a shell would not leave a word as it is. -/
def specialMarks : NarrowText :=
  " !\"$&'()*;<=>?[\\^|".toList ++ [Char.ofNat 0x60]

/-- A text has to be put in quotes.  A colon counts where the text stands
before one. -/
def needsQuotes (beforeColon : Bool) (value : NarrowText) : Bool :=
  value.isEmpty
    || value.any (fun c => specialMarks.contains c || !isPrintable c)
    || value.head? = some '#' || value.head? = some '~'
    || value = [Char.ofNat 0x7B] || value = [Char.ofNat 0x7D]
    || (beforeColon && value.contains ':')

/-- The characters that mean the same between both kinds of quotation marks. -/
def isPlain (c : Char) : Bool :=
  isPrintable c && (c = ' ' || c = '\'' || !specialMarks.contains c)
    && c ≠ Char.ofNat 0x7B && c ≠ Char.ofNat 0x7D

/-- What stands between the quotation marks of a word; the flag says that the
last character was an escape. -/
def between (escaped : Bool) : NarrowText → NarrowText
  | [] => []
  | c :: rest =>
      if isPrintable c then
        (if escaped then ['\'', '\''] else []) ++
          (if c = '\'' then ['\'', '\\', '\'', '\''] else [c]) ++ between false rest
      else (if escaped then [] else ['\'', '$', '\'']) ++ escape c ++ between true rest

/-- A text as one word of a shell, always in quotes. -/
def quotedWord (value : NarrowText) : NarrowText :=
  if value.contains '\'' && value.all isPlain then '"' :: value ++ ['"']
  else '\'' :: between false value ++ ['\'']

/-- A text as one word of a shell. -/
def word (beforeColon : Bool) (value : NarrowText) : NarrowText :=
  if needsQuotes beforeColon value then quotedWord value else value

end Shown
end SyntaxCensus
