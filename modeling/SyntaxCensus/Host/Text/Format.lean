import SyntaxCensus.Host.Decimal.Ratio

/-!
# Formats

The layout of a value says how it is written: how wide, with how many
digits, on which side blanks are put.

Main definitions:

- `Layout`: what is written between a percent sign and a letter.
- `Layout.read`: the layout in front of a text.
- `Layout.signed`, `Layout.unsigned`, `Layout.text`,
  `Layout.floating`: values that are written as a layout says.
-/

namespace SyntaxCensus

/-- A width or a number of digits: written out, or taken from the values. -/
inductive Amount where
  | none
  | given (value : Nat)
  | taken
  deriving DecidableEq, Repr

/-- What is written between a percent sign and a letter. -/
structure Layout where
  left : Bool := false
  plus : Bool := false
  space : Bool := false
  alternate : Bool := false
  zeros : Bool := false
  width : Nat := 0
  precision : Option Nat := none
  deriving DecidableEq, Repr

namespace Layout

/-! ## Reading -/

/-- A layout with its flags. -/
def withFlags (flags : NarrowText) : Layout :=
  { left := flags.contains '-'
    plus := flags.contains '+'
    space := flags.contains ' '
    alternate := flags.contains '#'
    zeros := flags.contains '0' }

/-- A mark that changes how a value is written. -/
def isFlag (c : Char) : Bool :=
  c = '-' || c = '+' || c = ' ' || c = '#' || c = '0'

/-- A width or a number of digits, and what follows. -/
def readAmount (text : NarrowText) : Amount × NarrowText :=
  match text with
  | '*' :: rest => (.taken, rest)
  | _ =>
      match Numeral.decimal? text with
      | some (value, after) => (.given value, after)
      | none => (.none, text)

/-- A layout behind a percent sign: its flags, its width, its precision and
what follows. -/
structure Spelling where
  flags : Layout
  width : Amount
  precision : Option Amount
  rest : NarrowText

/-- Nothing stands between the percent sign and the letter. -/
def Spelling.isBare (spelling : Spelling) : Bool :=
  spelling.flags = {} && spelling.width = .none && spelling.precision.isNone

/-- The layout in front of a text. -/
def read (text : NarrowText) : Spelling :=
  let flags := text.takeWhile isFlag
  let (width, after) := readAmount (text.dropWhile isFlag)
  match after with
  | '.' :: more =>
      let (precision, rest) := readAmount more
      ⟨withFlags flags, width, some precision, rest⟩
  | rest => ⟨withFlags flags, width, none, rest⟩

/-- A layout with another width; a negative one asks for blanks behind the
value. -/
def withWidth (d : Layout) (width : Int) : Layout :=
  { d with width := width.natAbs, left := d.left || decide (width < 0) }

/-- A layout with another precision; a negative one counts as none. -/
def withPrecision (d : Layout) (precision : Int) : Layout :=
  { d with precision := if precision < 0 then none else some precision.toNat }

/-! ## Writing -/

/-- A text with blanks up to the width. -/
def pad (d : Layout) (text : NarrowText) : NarrowText :=
  let blanks := List.replicate (d.width - text.length) ' '
  if d.left then text ++ blanks else blanks ++ text

/-- Digits behind a sign or another mark, with zeros between them up to the
width if `fills` allows that. -/
def padDigits (d : Layout) (fills : Bool) (front digits : NarrowText) : NarrowText :=
  if d.zeros && fills && !d.left then
    front ++ List.replicate (d.width - front.length - digits.length) '0' ++ digits
  else d.pad (front ++ digits)

/-- The sign of a value. -/
def sign (d : Layout) (negative : Bool) : NarrowText :=
  if negative then ['-'] else if d.plus then ['+'] else if d.space then [' '] else []

/-- Digits with zeros in front of them up to the precision. -/
def extend (d : Layout) (digits : NarrowText) : NarrowText :=
  match d.precision with
  | none => digits
  | some 0 => if digits = ['0'] then [] else digits
  | some least => List.replicate (least - digits.length) '0' ++ digits

/-- A number with a sign. -/
def signed (d : Layout) (value : Int) : NarrowText :=
  d.padDigits d.precision.isNone (d.sign (value < 0))
    (d.extend (Numeral.ofNat value.natAbs))

/-- A number without a sign, as a letter says. -/
def unsigned (d : Layout) (letter : Char) (value : Nat) : NarrowText :=
  match letter with
  | 'o' =>
      let digits := d.extend (Numeral.digits 8 false value)
      let marked := d.alternate && digits.head? ≠ some '0'
      d.padDigits d.precision.isNone [] (if marked then '0' :: digits else digits)
  | 'x' =>
      d.padDigits d.precision.isNone (if d.alternate && value ≠ 0 then ['0', 'x'] else [])
        (d.extend (Numeral.digits 16 false value))
  | 'X' =>
      d.padDigits d.precision.isNone (if d.alternate && value ≠ 0 then ['0', 'X'] else [])
        (d.extend (Numeral.digits 16 true value))
  | _ => d.padDigits d.precision.isNone [] (d.extend (Numeral.ofNat value))

/-- A text, cut off at the precision. -/
def text (d : Layout) (value : NarrowText) : NarrowText :=
  d.pad (value.take (d.precision.getD value.length))

/-- The digits of a magnitude, as a letter says. -/
def magnitude (d : Layout) (letter : Char) (value : Ratio) : NarrowText :=
  let upper := letter.isUpper
  match letter.toLower with
  | 'e' => value.scientific d.alternate upper (d.precision.getD 6)
  | 'g' => value.general d.alternate upper (d.precision.getD 6)
  | _ => value.fixed d.alternate (d.precision.getD 6)

/-- A number of floating point, as a letter says. -/
def floating (d : Layout) (letter : Char) (value : FloatingNumber) : NarrowText :=
  let cased (text : NarrowText) : NarrowText :=
    if letter.isUpper then text.map Char.toUpper else text
  match value with
  | .finite negative magnitude =>
      d.padDigits true (d.sign negative) (d.magnitude letter magnitude)
  | .infinite negative => d.pad (d.sign negative ++ cased ['i', 'n', 'f'])
  | .undefined negative => d.pad (d.sign negative ++ cased ['n', 'a', 'n'])

end Layout
end SyntaxCensus
