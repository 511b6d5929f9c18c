import SyntaxCensus.Host.Text.Escapes
import SyntaxCensus.Host.Text.Format

/-!
# Printing values in a format

A format is text with directives in it, each of which takes values and writes
them.  A format is used again as long as values are left.

Main definitions:

- `PrintStyle`: what formats may hold, and what is said about values.
- `Printing`: what has been printed, and the values that are left.
- `PrintStyle.run`: print values in a format.
-/

namespace SyntaxCensus

/-- What formats may hold, and what is said about values. -/
structure PrintStyle where
  /-- The escapes of the format. -/
  formatEscapes : EscapeStyle
  /-- The escapes of values that a directive replaces. -/
  valueEscapes : EscapeStyle
  /-- The significant bits of numbers of floating point. -/
  bits : Nat
  /-- Letters between the layout and the letter of a directive are passed. -/
  hasModifiers : Bool
  /-- A layout that does not go with its letter is a fault. -/
  isStrict : Bool
  /-- A quotation mark by itself stands for zero. -/
  bareMark : Bool
  /-- How a value is written so that a shell reads it as one word. -/
  quotes : Option (NarrowText → NarrowText)
  /-- What is said about a value that is no number. -/
  notNumber : NarrowText → NarrowText
  /-- What is said about a number with something behind it. -/
  notWhole : NarrowText → NarrowText
  /-- What is said about a number that is too large; the flag says that this is
  a failure. -/
  outOfRange : NarrowText → NarrowText × Bool
  /-- What is said about characters behind one that stands for its number. -/
  following : Option (NarrowText → NarrowText)
  /-- What is said about a directive without a letter. -/
  noLetter : NarrowText → NarrowText
  /-- What is said about a directive with an unknown letter. -/
  badLetter : NarrowText → NarrowText

/-- What has been printed, in reverse, the values that are left, complaints in
reverse, each with the length of what was printed before it, and the status. -/
structure Printing where
  printed : NarrowText := []
  values : List NarrowText
  complaints : List (Nat × NarrowText) := []
  status : Nat := 0

namespace Printing

/-- A step of printing.  It may end with a fault, or because all is done. -/
abbrev Step (α : Type) := ExceptT (Option NarrowText) (StateM Printing) α

/-- Print text. -/
def print (text : NarrowText) : Step Unit :=
  modify fun p => { p with printed := text.reverse ++ p.printed }

/-- Take the next value. -/
def next? : Step (Option NarrowText) :=
  modifyGet fun p =>
    match p.values with
    | [] => (none, p)
    | value :: rest => (some value, { p with values := rest })

/-- Take the next value; a missing one is empty. -/
def next : Step NarrowText :=
  return (← next?).getD []

/-- Complain, which may be a failure. -/
def complain (fails : Bool) (message : NarrowText) : Step Unit :=
  modify fun p =>
    { p with
      complaints := (p.printed.length, message) :: p.complaints
      status := if fails then 1 else p.status }

/-- What has been printed in parts, with the complaints between them. -/
def parts (p : Printing) : List (NarrowText × NarrowText) × NarrowText :=
  let (found, printed, _) := p.complaints.reverse.foldl
    (fun (found, left, place) (reached, message) =>
      ((left.take (reached - place), message) :: found, left.drop (reached - place), reached))
    (([] : List (NarrowText × NarrowText)), p.printed.reverse, 0)
  (found.reverse, printed)

end Printing

namespace PrintStyle

open Printing

/-! ## Numbers -/

/-- Complain about what follows a number. -/
def checkRest (style : PrintStyle) (value after : NarrowText) : Step Unit := do
  if !after.isEmpty then
    complain true (if after = value then style.notNumber value else style.notWhole value)

/-- The number of the character behind a quotation mark, if a value is one. -/
def characterNumber? (style : PrintStyle) (value : NarrowText) : Step (Option Nat) := do
  match value with
  | [] => return none
  | mark :: rest =>
      if mark = '"' ∨ mark = '\'' then
        match rest with
        | [] => return if style.bareMark then some 0 else none
        | c :: more => do
            match more, style.following with
            | _ :: _, some warning => complain false (warning more)
            | _, _ => pure ()
            return some c.toNat
      else return none

/-- The least and the greatest number that a directive takes. -/
def rangeOf (signed : Bool) : Int × Int :=
  if signed then (Numeral.least, Numeral.greatest)
  else (-18446744073709551615, 18446744073709551615)

/-- A value as a whole number. -/
def integerOf (style : PrintStyle) (signed : Bool) (value : NarrowText) : Step Int := do
  match ← style.characterNumber? value with
  | some number => return number
  | none =>
      match Numeral.signed? Numeral.marked? value with
      | none => do
          style.checkRest value value
          return 0
      | some (number, after) => do
          let (least, most) := rangeOf signed
          let inside := decide (least ≤ number) && decide (number ≤ most)
          if !after.isEmpty then style.checkRest value after
          else if !inside then
            let (message, fails) := style.outOfRange value
            complain fails message
          return if inside then number
            else if !signed then most
            else Numeral.clamp number

/-- The next value as a whole number. -/
def integer (style : PrintStyle) (signed : Bool) : Step Int := do
  style.integerOf signed (← next)

/-- The next value as a number of floating point. -/
def floating (style : PrintStyle) : Step FloatingNumber := do
  let value ← next
  match ← style.characterNumber? value with
  | some number => return .finite false ⟨number, 1⟩
  | none =>
      match FloatingNumber.read? style.bits value with
      | some (number, after) => do
          style.checkRest value after
          return number
      | none => do
          style.checkRest value value
          return .finite false ⟨0, 1⟩

/-- A width or a precision, if there is one. -/
def amount (style : PrintStyle) : Amount → Step (Option Int)
  | .none => return none
  | .given value => return some value
  | .taken => return some (← style.integer true)

/-! ## Directives -/

/-- Print text, and end if an escape asks for it. -/
def printUnescaped (style : PrintStyle) (layout : Layout) (value : NarrowText) : Step Unit := do
  let (text, ended) := style.valueEscapes.unescape value
  print (layout.text text)
  if ended then throw none

/-- Print a value as a letter says; the directive is shown in a fault. -/
def convert (style : PrintStyle) (layout : Layout) (letter : Char) (shown : NarrowText) :
    Step Unit := do
  match letter with
  | 'b' => do style.printUnescaped layout (← next)
  | 'c' => do print (layout.pad [(← next).headD (Char.ofNat 0)])
  | 's' => do print (layout.text (← next))
  | 'd' | 'i' => do print (layout.signed (← style.integer true))
  | 'o' | 'u' | 'x' | 'X' => do
      let value ← style.integer false
      print (layout.unsigned letter (value % 18446744073709551616).toNat)
  | 'a' | 'A' | 'e' | 'E' | 'f' | 'F' | 'g' | 'G' => do
      print (layout.floating letter (← style.floating))
  | 'q' => do
      match style.quotes with
      | some quote => print (layout.text (quote (← next)))
      | none => throw (some (style.badLetter shown))
  | _ => throw (some (style.badLetter shown))

/-- A layout that goes with a letter. -/
def goesWith (spelling : Layout.Spelling) (letter : Char) : Bool :=
  let flags := spelling.flags
  match letter with
  | 'c' => !flags.alternate && !flags.zeros && spelling.precision.isNone
  | 's' => !flags.alternate && !flags.zeros
  | 'd' | 'i' | 'u' => !flags.alternate
  | 'b' | 'q' => spelling.isBare
  | _ => true

/-- A letter that may stand between a layout and the letter of a directive. -/
def isModifier (c : Char) : Bool :=
  "lLhjtz".toList.contains c

/-- Print a directive, which follows a percent sign, and tell what follows
it. -/
def printDirective (style : PrintStyle) (text : NarrowText) : Step NarrowText := do
  let spelling := Layout.read text
  let width ← style.amount spelling.width
  let precision ←
    match spelling.precision with
    | none => pure none
    | some given => pure (some ((← style.amount given).getD 0))
  let behind :=
    if style.hasModifiers then spelling.rest.dropWhile isModifier else spelling.rest
  match behind with
  | [] => throw (some (style.noLetter ('%' :: text)))
  | letter :: rest => do
      let layout := spelling.flags.withWidth (width.getD 0)
      let layout :=
        match precision with
        | none => layout
        | some value => layout.withPrecision value
      let shown := '%' :: text.take (text.length - rest.length)
      if style.isStrict && !goesWith spelling letter then throw (some (style.badLetter shown))
      style.convert layout letter shown
      return rest

/-! ## Formats -/

/-- Print a format once; at most `limit` directives. -/
def printFormat (style : PrintStyle) : Nat → NarrowText → Step Unit
  | 0, _ | _, [] => return
  | limit + 1, c :: rest => do
      if c = '\\' then
        if rest.head? = some 'c' ∧ style.formatEscapes.ends = true then throw none
        let (meaning, size) := style.formatEscapes.read rest
        print meaning
        printFormat style limit (rest.drop size)
      else if c = '%' then
        match rest with
        | '%' :: more => do
            print ['%']
            printFormat style limit more
        | more => do
            let after ← style.printDirective more
            printFormat style limit after
      else do
        print [c]
        printFormat style limit rest

/-- Print a format as long as values are left; at most `limit` times. -/
def printAll (style : PrintStyle) (format : NarrowText) : Nat → Step Unit
  | 0 => return
  | limit + 1 => do
      let before := (← get).values.length
      style.printFormat format.length format
      let after := (← get).values.length
      if after ≠ 0 ∧ after < before then printAll style format limit

/-- Print values in a format.  The first part of the result is the fault that
ended it, if there was one. -/
def run (style : PrintStyle) (format : NarrowText) (values : List NarrowText) :
    Option NarrowText × Printing :=
  let (outcome, p) :=
    ((style.printAll format (values.length + 1)).run { values } :
      Except (Option NarrowText) Unit × Printing)
  match outcome with
  | .error fault => (fault, { p with values := [] })
  | .ok () => (none, p)

end PrintStyle
end SyntaxCensus
