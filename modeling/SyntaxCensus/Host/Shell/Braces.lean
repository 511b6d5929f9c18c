import SyntaxCensus.Host.Shell.Syntax
import SyntaxCensus.Host.Text.Numeral

/-!
# Words with braces

In the extended language a word with alternatives between braces stands for a
word for each of them, and two numbers or letters between braces stand for all
that lie between.

Main definitions:

- `Word.alternatives`: the words that a word stands for.
-/

namespace SyntaxCensus
namespace Shell
namespace Word

/-- A part of a word: a character that stands outside quotes, or a segment. -/
inductive Item where
  | character (c : Char)
  | segment (segment : Segment)

/-- The parts of a word. -/
def items (word : Word) : List Item :=
  word.flatMap fun segment =>
    match segment with
    | .literal false text => text.map Item.character
    | other => [.segment other]

/-- The word of some parts. -/
def ofItems : List Item → Word
  | [] => []
  | .segment segment :: rest => segment :: ofItems rest
  | .character c :: rest =>
      match ofItems rest with
      | .literal false text :: others => .literal false (c :: text) :: others
      | others => .literal false [c] :: others

/-- The text of parts that are all characters. -/
def textOf? : List Item → Option NarrowText
  | [] => some []
  | .character c :: rest => (textOf? rest).map (c :: ·)
  | .segment _ :: _ => none

/-- The parts between an opening brace and the one that closes it, cut at the
commas between them, and what follows; none if no brace closes it.  What is
found so far stands in reverse. -/
def cutBraces (depth : Nat) (found : List (List Item)) (current : List Item) :
    List Item → Option (List (List Item) × List Item)
  | [] => none
  | .character '\x7b' :: rest => cutBraces (depth + 1) found (.character '\x7b' :: current) rest
  | .character '\x7d' :: rest =>
      match depth with
      | 0 => some ((current.reverse :: found).reverse, rest)
      | depth + 1 => cutBraces depth found (.character '\x7d' :: current) rest
  | .character ',' :: rest =>
      if depth = 0 then cutBraces 0 (current.reverse :: found) [] rest
      else cutBraces depth found (.character ',' :: current) rest
  | item :: rest => cutBraces depth found (item :: current) rest

/-- The whole numbers from one to another in steps. -/
def numbers (first last : Int) (step : Nat) : List Int :=
  let step := max 1 step
  let count := (last - first).natAbs / step + 1
  (List.range (min count 100000)).map fun (index : Nat) =>
    if first ≤ last then first + index * step else first - index * step

/-- The whole number that a text spells. -/
def integer? (text : NarrowText) : Option Int :=
  Numeral.integer? Numeral.decimal? text

/-- The number of digits that a written number asks for. -/
def widthOf (text : NarrowText) : Nat :=
  let digits := text.dropWhile fun c => c = '-' || c = '+'
  if 1 < digits.length ∧ digits.head? = some '0' then text.length else 0

/-- A number with zeros up to a width. -/
def padded (width : Nat) (value : Int) : NarrowText :=
  let digits := Numeral.ofNat value.natAbs
  let sign := if value < 0 then ['-'] else []
  sign ++ List.replicate (width - sign.length - digits.length) '0' ++ digits

/-- The texts of a sequence that two numbers or letters and perhaps a step
spell. -/
def sequence? (text : NarrowText) : Option (List NarrowText) :=
  match (String.ofList text).splitOn ".." |>.map String.toList with
  | [first, last] => between? first last 1
  | [first, last, step] =>
      match integer? step with
      | some step => between? first last step.natAbs
      | none => none
  | _ => none
where
  /-- The texts from one to another. -/
  between? (first last : NarrowText) (step : Nat) : Option (List NarrowText) :=
    match integer? first, integer? last, first, last with
    | some a, some b, _, _ =>
        let width := max (widthOf first) (widthOf last)
        some ((numbers a b step).map (padded width))
    | _, _, [a], [b] =>
        if a.isAlpha && b.isAlpha then
          some ((numbers a.toNat b.toNat step).map fun code => [Char.ofNat code.toNat])
        else none
    | _, _, _, _ => none

/-- The rows of parts that a row of parts stands for; `limit` bounds the number
of steps. -/
def expandItems : Nat → List Item → List (List Item)
  | 0, items => [items]
  | _, [] => [[]]
  | limit + 1, .character '\x7b' :: rest =>
      let plain : List (List Item) :=
        (expandItems limit rest).map fun others => .character '\x7b' :: others
      match cutBraces 0 [] [] rest with
      | none => plain
      | some ([single], after) =>
          match (textOf? single).bind sequence? with
          | none => plain
          | some texts =>
              let others := expandItems limit after
              texts.flatMap fun text =>
                others.map fun other => text.map Item.character ++ other
      | some (several, after) =>
          let others := expandItems limit after
          several.flatMap fun choice =>
            (expandItems limit choice).flatMap fun front =>
              others.map fun other => front ++ other
  | limit + 1, item :: rest => (expandItems limit rest).map fun others => item :: others

/-- The words that a word stands for. -/
def alternatives (word : Word) : List Word :=
  let parts := items word
  let opens := parts.any fun item =>
    match item with
    | .character c => c = '\x7b'
    | .segment _ => false
  if opens then (expandItems (parts.length + 1) parts).map ofItems else [word]

end Word
end Shell
end SyntaxCensus
