import SyntaxCensus.Text.Lines

/-!
# Faults of a notation

A text that should spell a regular expression may not do so.  A fault says
what is wrong and where, and is shown below the part of the text that is to
blame.

Main definitions:

- `Span`: a part of a text.
- `NotationProblem`: what can be wrong.
- `NotationFault.message`: a fault with the text that has it.
-/

namespace SyntaxCensus
namespace Regex

/-- A place of a text by its line and column, both from one on. -/
structure Place where
  line : Nat
  column : Nat
  deriving DecidableEq, Repr

/-- The place after a character. -/
def Place.after (place : Place) (c : Char) : Place :=
  if c = '\n' then ⟨place.line + 1, 1⟩ else ⟨place.line, place.column + 1⟩

/-- A part of a text; `last` is the place behind it. -/
structure Span where
  first : Place
  last : Place
  deriving DecidableEq, Repr

/-- What can be wrong with a text that should spell an expression. -/
inductive NotationProblem where
  | classEscape
  | classRange
  | classRangeEnds
  | classUnclosed
  | decimalInvalid
  | hexEmpty
  | hexInvalid
  | hexDigit
  | escapeUnfinished
  | escapeUnknown
  | flagNegationAtEnd
  | flagRepeated
  | flagNegationRepeated
  | flagUnfinished
  | flagUnknown
  | nameRepeated
  | nameEmpty
  | nameInvalid
  | nameUnfinished
  | groupUnclosed
  | groupUnopened
  | countRange
  | countEmpty
  | countUnclosed
  | repetitionOfNothing
  | edgeUnclosed
  | edgeUnknown
  | edgeUnfinished
  | classNameInvalid
  | backreference
  | lookAround
  | notUnicode
  | notText
  | propertyUnknown
  | propertyValueUnknown
  | classNeedsTable
  | caseNeedsTable
  deriving DecidableEq, Repr

/-- A problem in words. -/
def NotationProblem.description : NotationProblem → String
  | .classEscape => "invalid escape sequence found in character class"
  | .classRange => "invalid character class range, the start must be <= the end"
  | .classRangeEnds => "invalid range boundary, must be a literal"
  | .classUnclosed => "unclosed character class"
  | .decimalInvalid => "decimal literal invalid"
  | .hexEmpty => "hexadecimal literal empty"
  | .hexInvalid => "hexadecimal literal is not a Unicode scalar value"
  | .hexDigit => "invalid hexadecimal digit"
  | .escapeUnfinished => "incomplete escape sequence, reached end of pattern prematurely"
  | .escapeUnknown => "unrecognized escape sequence"
  | .flagNegationAtEnd => "dangling flag negation operator"
  | .flagRepeated => "duplicate flag"
  | .flagNegationRepeated => "flag negation operator repeated"
  | .flagUnfinished => "expected flag but got end of regex"
  | .flagUnknown => "unrecognized flag"
  | .nameRepeated => "duplicate capture group name"
  | .nameEmpty => "empty capture group name"
  | .nameInvalid => "invalid capture group character"
  | .nameUnfinished => "unclosed capture group name"
  | .groupUnclosed => "unclosed group"
  | .groupUnopened => "unopened group"
  | .countRange => "invalid repetition count range, the start must be <= the end"
  | .countEmpty => "repetition quantifier expects a valid decimal"
  | .countUnclosed => "unclosed counted repetition"
  | .repetitionOfNothing => "repetition operator missing expression"
  | .edgeUnclosed =>
      "special word boundary assertion is either unclosed or contains an invalid character"
  | .edgeUnknown =>
      "unrecognized special word boundary assertion, valid choices are: " ++
        "start, end, start-half or end-half"
  | .edgeUnfinished =>
      "found either the beginning of a special word boundary or a bounded repetition on a " ++
        "\\b with an opening brace, but no closing brace"
  | .classNameInvalid => "invalid Unicode character class"
  | .backreference => "backreferences are not supported"
  | .lookAround => "look-around, including look-ahead and look-behind, is not supported"
  | .notUnicode => "Unicode not allowed here"
  | .notText => "pattern can match invalid UTF-8"
  | .propertyUnknown => "Unicode property not found"
  | .propertyValueUnknown => "Unicode property value not found"
  | .classNeedsTable =>
      "Unicode-aware Perl class not found (make sure the unicode-perl feature is enabled)"
  | .caseNeedsTable =>
      "Unicode-aware case insensitivity matching is not available " ++
        "(make sure the unicode-case feature is enabled)"

/-- What is wrong with a part of a text; `earlier` is the part that it
conflicts with. -/
structure NotationFault where
  problem : NotationProblem
  span : Span
  earlier : Option Span := none
  deriving DecidableEq, Repr

namespace NotationFault

/-- Marks under the parts of a line, given in ascending order; `column` is the
first column that is not marked yet. -/
def marks (column : Nat) : List Span → List Char
  | [] => []
  | span :: rest =>
      let length := max 1 (span.last.column - span.first.column)
      List.replicate (span.first.column - column) ' ' ++ List.replicate length '^' ++
        marks (max column span.first.column + length) rest

/-- The parts of a text that a fault is about, in ascending order. -/
def spans (fault : NotationFault) : List Span :=
  let all := fault.span :: fault.earlier.toList
  all.mergeSort fun a b =>
    decide (a.first.line < b.first.line) ||
      (a.first.line = b.first.line && decide (a.first.column ≤ b.first.column))

/-- A text with a number before each line, if it has several, and marks under
the parts that a fault is about. -/
def annotated (fault : NotationFault) (lines : List (List Char)) (several : Bool) :
    List (List Char) :=
  let width := (toString lines.length).length
  (lines.zip (List.range lines.length)).flatMap fun (line, i) =>
    let number := (toString (i + 1)).toList
    let margin :=
      if several then List.replicate (width - number.length) ' ' ++ number ++ [':', ' ']
      else List.replicate 4 ' '
    let here := fault.spans.filter fun span =>
      span.first.line = i + 1 && span.last.line = i + 1
    let shown := margin ++ line
    if here.isEmpty then [shown] else [shown, List.replicate margin.length ' ' ++ marks 1 here]

/-- The lines of a text; a line feed at the end begins no line. -/
def linesOf (text : List Char) : List (List Char) :=
  match (Text.stretches '\n' text).reverse with
  | [] :: rest => rest.reverse
  | lines => lines.reverse

/-- Where the parts that stretch over lines begin and end, in words. -/
def longSpans (fault : NotationFault) : List String :=
  (fault.spans.filter fun span => span.first.line ≠ span.last.line).map fun span =>
    s!"on line {span.first.line} (column {span.first.column}) through line {span.last.line} " ++
      s!"(column {span.last.column - 1})"

/-- A fault with the text that has it. -/
def message (fault : NotationFault) (text : List Char) : String :=
  let several := text.contains '\n'
  let divider := if several then [List.replicate 79 '~'] else []
  let lines := divider ++ fault.annotated (linesOf text) several ++ divider ++
    (if several then fault.longSpans.map String.toList else [])
  "regex parse error:\n" ++ String.ofList (lines.flatMap fun line => line ++ ['\n']) ++
    "error: " ++ fault.problem.description

end NotationFault
end Regex
end SyntaxCensus
