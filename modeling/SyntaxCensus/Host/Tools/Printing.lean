import SyntaxCensus.Host.Decimal.Ratio
import SyntaxCensus.Host.Text.Printing
import SyntaxCensus.Host.Tools.Options

/-!
# Printing

Tools that write what their arguments say: words, values in a format, and
numbers in a row.

Main definitions:

- `Tools.echo`, `Tools.printf`: words, and values in a format.
- `Tools.seq`: numbers in a row.
- `Tools.yes`: the same line without end.
-/

namespace SyntaxCensus
namespace Tools

/-! ## Words -/

/-- The switches of `echo` in front of its words: no line end, and escapes. -/
def echoSwitches (bare escapes : Bool) : List NarrowText → Bool × Bool × List NarrowText
  | ('-' :: c :: letters) :: rest =>
      let all := c :: letters
      if all.all fun d => d = 'n' || d = 'e' || d = 'E' then
        let escapes := all.foldl
          (fun set d => if d = 'e' then true else if d = 'E' then false else set)
          escapes
        echoSwitches (bare || all.contains 'n') escapes rest
      else (bare, escapes, ('-' :: all) :: rest)
  | words => (bare, escapes, words)

/-- Write words with blanks between them. -/
def echo : Tool := fun _ tool arguments => do
  let (bare, escapes, words) := echoSwitches false false arguments
  let line := [' '].intercalate words
  let (text, ended) := if escapes then EscapeStyle.extended.unescape line else (line, false)
  Work.print tool (if bare || ended then text else text ++ ['\n'])
  return 0

/-! ## Formats -/

/-- The formats of tools. -/
def formats : PrintStyle where
  formatEscapes := .extendedFormat
  valueEscapes := { EscapeStyle.extended with marks := ['"'], numbered := true }
  bits := 64
  hasModifiers := true
  isStrict := true
  bareMark := false
  quotes := some (Shown.word false)
  notNumber := fun value => Work.quoted value ++ ": expected a numeric value".toList
  notWhole := fun value => Work.quoted value ++ ": value not completely converted".toList
  outOfRange := fun value =>
    (Work.quoted value ++ ": Numerical result out of range".toList, true)
  following := some fun rest =>
    "warning: ".toList ++ rest ++
      ": character(s) following character constant have been ignored".toList
  noLetter := fun directive => directive ++ ": invalid conversion specification".toList
  badLetter := fun directive => directive ++ ": invalid conversion specification".toList

/-- Write values in a format. -/
def printf : Tool := fun _ tool arguments => do
  let words := if arguments.head? = some ['-', '-'] then arguments.tail else arguments
  match words with
  | [] => missingOperand tool none
  | format :: values => do
      let (fault, p) := formats.run format values
      let (parts, last) := p.parts
      for (printed, complaint) in parts do
        Work.print tool printed
        Work.complain tool complaint
      Work.print tool last
      match fault, p.values with
      | some problem, _ => Work.fail tool 1 problem
      | none, [] => return p.status
      | none, extra :: _ => do
          Work.complain tool
            ("warning: ignoring excess arguments, starting with ".toList ++ Work.quoted extra)
          return p.status

/-! ## Numbers in a row -/

/-- A number with a sign, and the places that it is written with. -/
structure SequenceNumber where
  negative : Bool
  magnitude : Ratio
  places : Nat

/-- The number that a text spells. -/
def sequenceNumber? (text : NarrowText) : Option SequenceNumber :=
  match FloatingNumber.read? 64 text with
  | some (.finite negative _, []) =>
      let body := text.filter fun c => !Numeral.isSpace c && c ≠ '-' && c ≠ '+'
      let (_, places, after) := Ratio.readDigits 10 body
      let (exponent, _) := Ratio.readExponent 'e' 'E' after
      let exact := (Ratio.read? ((text.dropWhile Numeral.isSpace).dropWhile fun c =>
        c = '-' || c = '+')).map Prod.fst
      exact.map fun magnitude => ⟨negative, magnitude, ((places : Int) - exponent).toNat⟩
  | _ => none

/-- A number as a fraction with a sign. -/
def SequenceNumber.value (n : SequenceNumber) : Int × Nat :=
  (if n.negative then -(n.magnitude.numerator : Int) else n.magnitude.numerator,
    n.magnitude.denominator)

/-- The numbers from one on in steps up to another one, all with the same
denominator, at most `limit` of them. -/
def progression (first step last : Int) : Nat → List Int
  | 0 => []
  | limit + 1 =>
      if (if step < 0 then first < last else last < first) then []
      else first :: progression (first + step) step last limit

/-- How many numbers are written at most. -/
def maxProgression : Nat := 1000000

/-- A format with one directive: the text before it, how a number is written,
and the text behind it. -/
structure SequenceFormat where
  front : NarrowText
  layout : Layout
  letter : Char
  back : NarrowText

/-- Text in which no directive stands, with its percent signs undoubled. -/
def plainFormat? : NarrowText → Option NarrowText
  | [] => some []
  | '%' :: '%' :: rest => (plainFormat? rest).map fun more => '%' :: more
  | '%' :: _ => none
  | c :: rest => (plainFormat? rest).map fun more => c :: more

/-- The format that a text spells, which stands in quotes in complaints. -/
def sequenceFormat (whole : NarrowText) (front : NarrowText) :
    NarrowText → Except NarrowText SequenceFormat
  | [] => .error (about "has no % directive")
  | '%' :: '%' :: rest => sequenceFormat whole ('%' :: front) rest
  | '%' :: rest =>
      let spelling := Layout.read rest
      let amount (given : Amount) : Nat :=
        match given with
        | .given value => value
        | _ => 0
      match spelling.rest.dropWhile (· = 'L') with
      | [] => .error (about "ends in %")
      | letter :: more =>
          if !"aAeEfFgG".toList.contains letter then
            .error (about ("has unknown %" ++ String.singleton letter ++ " directive"))
          else
            match plainFormat? more with
            | none => .error (about "has too many % directives")
            | some back =>
                .ok
                  { front := front.reverse
                    layout :=
                      { spelling.flags with
                        width := amount spelling.width
                        precision := spelling.precision.map amount }
                    letter
                    back }
  | c :: rest => sequenceFormat whole (c :: front) rest
where
  /-- What is said about the format. -/
  about (problem : String) : NarrowText :=
    "format ".toList ++ Work.quoted whole ++ ' ' :: problem.toList

/-- A number in a format. -/
def SequenceFormat.text (format : SequenceFormat) (value : FloatingNumber) : NarrowText :=
  format.front ++ format.layout.floating format.letter value ++ format.back

/-- Arguments with a mark before the first one that is a negative number, if
there are only options before it. -/
def beforeNegative : List NarrowText → List NarrowText
  | [] => []
  | word :: rest =>
      match word with
      | '-' :: c :: _ =>
          if c.isDigit || c = '.' then ['-', '-'] :: word :: rest else word :: beforeNegative rest
      | _ => word :: rest

/-- Write numbers in a row. -/
def seq : Tool := fun _ tool arguments => do
  let found ← optionsOf tool 1
    [valued 'f' "format", valued 's' "separator", option 'w' "equal-width"] false
    (beforeNegative arguments)
  let read (text : NarrowText) : Work SequenceNumber :=
    match sequenceNumber? text with
    | some number => pure number
    | none => misuse tool 1 ("invalid floating point argument: ".toList ++ Work.quoted text)
  let one : SequenceNumber := ⟨false, ⟨1, 1⟩, 0⟩
  let (first, step, last, stepText) ←
    match found.operands with
    | [] => missingOperand tool none
    | [last] => pure (one, one, ← read last, ['1'])
    | [first, last] => pure (← read first, one, ← read last, ['1'])
    | [first, step, last] => pure (← read first, ← read step, ← read last, step)
    | _ :: _ :: _ :: extra :: _ => extraOperand tool extra
  if step.magnitude.numerator = 0 then
    misuse tool 1 ("invalid Zero increment value: ".toList ++ Work.quoted stepText)
  let format ←
    match found.value? "f" with
    | none => pure (⟨[], { precision := some (max first.places step.places) }, 'f', []⟩ :
        SequenceFormat)
    | some text =>
        match sequenceFormat text [] text with
        | .ok format => pure format
        | .error problem => Work.fail tool 1 problem
  if found.has "f" && found.has "w" then
    misuse tool 1 "format string may not be specified when printing equal width strings".toList
  let common := first.magnitude.denominator * step.magnitude.denominator *
    last.magnitude.denominator
  let scaled (n : SequenceNumber) : Int := n.value.1 * ((common / n.value.2 : Nat) : Int)
  let write (value : Int) : FloatingNumber := .finite (value < 0) ⟨value.natAbs, common⟩
  let size (n : SequenceNumber) : Nat := (format.text (write (scaled n))).length
  let layout :=
    if found.has "w" then
      { format.layout with zeros := true, width := max (size first) (size last) }
    else format.layout
  let values := progression (scaled first) (scaled step) (scaled last) maxProgression
  let lines := values.map fun value => { format with layout }.text (write value)
  if lines.isEmpty then return 0
  Work.print tool (((found.value? "s").getD ['\n']).intercalate lines ++ ['\n'])
  return 0

/-! ## Lines without end -/

/-- How many octets are written where nobody stops a tool. -/
def endlessOctets : Nat := 262144

/-- Write the same line without end. -/
def yes : Tool := fun _ tool arguments => do
  let found ← optionsOf tool 1 [] true arguments
  let line := (if found.operands.isEmpty then ['y'] else [' '].intercalate found.operands) ++ ['\n']
  Work.print tool (List.replicate (endlessOctets / line.length + 1) line).flatten
  throw (.killed 13 false)

end Tools
end SyntaxCensus
