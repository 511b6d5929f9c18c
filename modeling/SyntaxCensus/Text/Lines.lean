/-!
# Texts in parts

Cutting a text at a mark, cutting white space off its ends, and setting in its
lines.

Main definitions:

- `isBlank`, `trimBlanks`: the white space of Unicode, and a text without it at
  either end.
- `Text.parts`: the parts of a text between marks.
- `Text.setIn`: a text with its lines set in.
-/

namespace SyntaxCensus

/-- White space: the blank, the controls from tab to carriage return, and the
separators beyond ASCII. -/
def isBlank (c : Char) : Bool :=
  let n := c.toNat
  decide (n = 0x20 ∨ (0x09 ≤ n ∧ n ≤ 0x0D) ∨ n = 0x85 ∨ n = 0xA0 ∨ n = 0x1680 ∨
    (0x2000 ≤ n ∧ n ≤ 0x200A) ∨ n = 0x2028 ∨ n = 0x2029 ∨ n = 0x202F ∨ n = 0x205F ∨ n = 0x3000)

/-- A text without the blanks at its ends. -/
def trimBlanks (text : String) : String :=
  String.ofList ((text.toList.dropWhile isBlank).reverse.dropWhile isBlank).reverse

namespace Text

/-- The stretches between marks; one stretch more than there are marks. -/
def stretches (mark : Char) : List Char → List (List Char)
  | [] => [[]]
  | c :: rest =>
      if c = mark then [] :: stretches mark rest
      else
        match stretches mark rest with
        | [] => [[c]]
        | first :: others => (c :: first) :: others

/-- The parts of a text between marks. -/
def parts (mark : Char) (text : String) : List String :=
  (stretches mark text.toList).map String.ofList

/-- A text with the lines after the first set in by blanks. -/
def setIn (width : Nat) (text : String) : String :=
  String.ofList (text.toList.flatMap fun c =>
    if c = '\n' then '\n' :: List.replicate width ' ' else [c])

end Text
end SyntaxCensus
