import SyntaxCensus.Host.Text.Format
import SyntaxCensus.Host.Tools.Records.Program

/-!
# Values of programs on records

A value is a number or a text.  Text that comes from outside counts as a number
if it looks like one, and a variable that has no value yet counts as zero and
as the empty text.

Main definitions:

- `Records.Cell`: a value.
- `Records.formatted`: values written in a format.
- `Cell.relates`: how two values stand to each other.
-/

namespace SyntaxCensus
namespace Records

/-- A value. -/
inductive Cell where
  | missing
  | number (value : FloatingNumber)
  | text (written : NarrowText)
  | input (written : NarrowText)
  deriving Inhabited

/-! ## Numbers -/

/-- The number in front of a text; zero if there is none. -/
def numberInFront (text : NarrowText) : FloatingNumber :=
  match FloatingNumber.read? FloatingNumber.doubleBits text with
  | some (value, _) => value
  | none => FloatingNumber.zero

/-- A blank around a number. -/
def isSpace (c : Char) : Bool :=
  c = ' ' || c = '\t' || c = '\n' || c = '\r' || c = '\x0b' || c = '\x0c'

/-- The number that a whole text spells, between blanks. -/
def looksLike? (text : NarrowText) : Option FloatingNumber :=
  let trimmed := ((text.dropWhile isSpace).reverse.dropWhile isSpace).reverse
  let begins (c : Char) : Bool := c.isDigit || c = '+' || c = '-' || c = '.'
  let ends (c : Char) : Bool := c.isDigit || c = '.'
  if trimmed.head?.any begins && trimmed.getLast?.any ends then
    match FloatingNumber.read? FloatingNumber.doubleBits trimmed with
    | some (value, []) => some value
    | _ => none
  else none

/-- The least number that is written with all its digits. -/
def leastWhole : Int := -9223372036854775808

/-- The greatest number that is written with all its digits. -/
def greatestWhole : Int := 18446744073709551615

/-- The whole number that is written with all its digits for a number. -/
def wholeNumber? (value : FloatingNumber) : Option Int :=
  match value.toInt? with
  | some whole =>
      if leastWhole ≤ whole ∧ whole ≤ greatestWhole + 1 then some (min whole greatestWhole)
      else none
  | none => none

namespace Cell

/-- The number that a value counts as. -/
def toNumber : Cell → FloatingNumber
  | missing => FloatingNumber.zero
  | number value => value
  | text written | input written => numberInFront written

/-- The number that a value is, if it is not a text. -/
def isNumber? : Cell → Option FloatingNumber
  | missing => some FloatingNumber.zero
  | number value => some value
  | text _ => none
  | input written => looksLike? written

/-- A value counts as true. -/
def isTrue : Cell → Bool
  | missing => false
  | number value => !value.isZero
  | text written => !written.isEmpty
  | input written =>
      match looksLike? written with
      | some value => !value.isZero
      | none => !written.isEmpty

/-- The value of a condition. -/
def ofBool (holds : Bool) : Cell :=
  number (FloatingNumber.ofInt (if holds then 1 else 0))

/-- A whole number as a value. -/
def ofNat (value : Nat) : Cell :=
  number (FloatingNumber.ofInt value)

end Cell

/-! ## Formats -/

/-- Why values cannot be written in a format. -/
inductive FormatFault where
  | tooFew
  | badLetter
  deriving DecidableEq, Repr

/-- The values that are left, and the pieces that were written, the last one
first. -/
structure FormatState where
  cells : List Cell
  written : List NarrowText := []

/-- A step of writing takes values from a row. -/
abbrev Formatting (α : Type) := ExceptT FormatFault (StateM FormatState) α

namespace Formatting

/-- The next value. -/
def next : Formatting Cell := do
  let state ← get
  match state.cells with
  | [] => throw .tooFew
  | cell :: rest => do
      set { state with cells := rest }
      return cell

/-- A width or a precision, if there is one. -/
def amount : Amount → Formatting (Option Int)
  | .none => return none
  | .given value => return some value
  | .taken => return some (← next).toNumber.toInt

/-- Write a piece. -/
def write (text : NarrowText) : Formatting Unit :=
  modify fun state => { state with written := text :: state.written }

end Formatting

open Formatting

/-- A number cut to the range of whole numbers of a machine. -/
def cut (value : FloatingNumber) : Int :=
  match value with
  | .infinite false => greatestWhole
  | _ => max (-9223372036854775807) (min greatestWhole value.toInt)

/-- The character of a value: the first one of a text, or that of a number. -/
def characterOf (cell : Cell) : NarrowText :=
  match cell with
  | .missing => []
  | .text written => written.take 1
  | .number value => [Char.ofNat (value.toInt % 256).toNat]
  | .input written =>
      match looksLike? written with
      | some value => [Char.ofNat (value.toInt % 256).toNat]
      | none => written.take 1

/-- A letter that may stand between a layout and the letter of a directive. -/
def isSizeLetter (c : Char) : Bool :=
  c = 'h' || c = 'l'

/-- Write a directive, and tell what follows it.  The texts of numbers are told
by `toText`. -/
def writeDirective (toText : Cell → NarrowText) (format : NarrowText) :
    Formatting NarrowText := do
  let spelling := Layout.read format
  let width ← amount spelling.width
  let precision ←
    match spelling.precision with
    | none => pure none
    | some given => pure (some ((← amount given).getD 0))
  let layout := spelling.flags.withWidth (width.getD 0)
  let layout :=
    match precision with
    | none => layout
    | some value => layout.withPrecision value
  match spelling.rest.dropWhile isSizeLetter with
  | [] => throw .badLetter
  | letter :: rest => do
      match letter with
      | 'c' => write (layout.pad (characterOf (← next)))
      | 's' => write (layout.text (toText (← next)))
      | 'd' | 'i' => write (layout.signed (cut (← next).toNumber))
      | 'o' | 'x' | 'X' | 'u' =>
          write (layout.unsigned letter (cut (← next).toNumber % 18446744073709551616).toNat)
      | 'e' | 'E' | 'f' | 'F' | 'g' | 'G' | 'a' | 'A' =>
          write (layout.floating letter (← next).toNumber)
      | _ => throw .badLetter
      return rest

/-- Write a format with its directives replaced by values; at most `limit`
directives. -/
def writeFormat (toText : Cell → NarrowText) : Nat → NarrowText → Formatting Unit
  | 0, _ | _, [] => return
  | limit + 1, '%' :: '%' :: rest => do
      write ['%']
      writeFormat toText limit rest
  | limit + 1, '%' :: rest => do
      let after ← writeDirective toText rest
      writeFormat toText limit after
  | limit + 1, c :: rest => do
      write [c]
      writeFormat toText limit rest

/-- Values written in a format: the text, as far as it is written before there
is a fault, and the fault. -/
def formatted (toText : Cell → NarrowText) (format : NarrowText) (cells : List Cell) :
    NarrowText × Option FormatFault :=
  let (outcome, state) :=
    ((writeFormat toText format.length format).run { cells } :
      Except FormatFault Unit × FormatState)
  let fault :=
    match outcome with
    | .ok () => none
    | .error fault => some fault
  (state.written.reverse.flatten, fault)

/-- The text of a number: all digits of a whole one that is not too large, and
otherwise as a format says. -/
def numberText (format : NarrowText) (value : FloatingNumber) : NarrowText :=
  match wholeNumber? value with
  | some whole => Numeral.ofInt whole
  | none => (formatted (fun _ => []) format [.number value]).1

namespace Cell

/-- The text that a value counts as; numbers are written in a format. -/
def toText (format : NarrowText) : Cell → NarrowText
  | missing => []
  | number value => numberText format value
  | text written | input written => written

/-- How two values stand to each other: as numbers if both are, and otherwise as
texts. -/
def relates (format : NarrowText) (relation : Relation) (first second : Cell) : Bool :=
  match first.isNumber?, second.isNumber? with
  | some a, some b =>
      match a.compare? b with
      | some order => relation.holds order
      | none => decide (relation = .different)
  | _, _ =>
      relation.holds
        (compareOfLessAndEq (String.ofList (first.toText format))
          (String.ofList (second.toText format)))

end Cell
end Records
end SyntaxCensus
