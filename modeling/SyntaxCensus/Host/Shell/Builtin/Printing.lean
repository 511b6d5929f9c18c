import SyntaxCensus.Host.Shell.Builtin.Basic
import SyntaxCensus.Host.Shell.Evaluation
import SyntaxCensus.Host.Shell.Source
import SyntaxCensus.Host.Text.Printing

/-!
# Printing

The commands that write their arguments: as a line, or as a format says.

Main definitions:

- `Builtin.echo`: a line of arguments.
- `Builtin.formats`: the formats of the shell.
- `Builtin.printf`: values in a format.
-/

namespace SyntaxCensus
namespace Shell
namespace Builtin

/-! ## Lines -/

/-- Arguments with blanks between them and their escapes replaced, and whether
an escape ended the text. -/
def unescapeAll (style : EscapeStyle) : List NarrowText → NarrowText × Bool
  | [] => ([], false)
  | word :: rest =>
      let (text, ended) := style.unescape word
      if ended then (text, true)
      else
        match rest with
        | [] => (text, false)
        | _ :: _ =>
            let (others, ended) := unescapeAll style rest
            (text ++ ' ' :: others, ended)

/-- Print the arguments as a line. -/
def echo : Builtin := fun arguments => do
  let (bare, words) :=
    match arguments with
    | ['-', 'n'] :: rest => (true, rest)
    | words => (false, words)
  let (text, ended) := unescapeAll .plain words
  Run.show (if bare || ended then text else text ++ ['\n'])

/-- How a line is printed: without its end, and with escapes replaced. -/
structure LineOptions where
  bare : Bool := false
  escapes : Bool := false

/-- The options in front of the words of a line, and the words.  A word with a
letter that is no option is part of the line. -/
def lineOptions (options : LineOptions) : List NarrowText → LineOptions × List NarrowText
  | [] => (options, [])
  | word :: rest =>
      match word with
      | '-' :: c :: more =>
          if (c :: more).all fun c => c = 'n' || c = 'e' || c = 'E' then
            let options := (c :: more).foldl
              (fun options c =>
                if c = 'n' then { options with bare := true }
                else { options with escapes := decide (c = 'e') })
              options
            lineOptions options rest
          else (options, word :: rest)
      | _ => (options, word :: rest)

/-- Print the arguments as a line, as their options say. -/
def echoWithOptions : Builtin := fun arguments => do
  let (options, words) := lineOptions { escapes := (← get).hasSetting "xpg_echo" } arguments
  let (text, ended) :=
    if options.escapes then unescapeAll .richLine words else ([' '].intercalate words, false)
  Run.show (if options.bare || ended then text else text ++ ['\n'])

/-! ## Formats -/

/-- What is said about a value. -/
def aboutValue (problem : String) (value : NarrowText) : NarrowText :=
  value ++ ": ".toList ++ problem.toList

/-- The formats of the shell. -/
def formats : PrintStyle where
  formatEscapes := .plainFormat
  valueEscapes := .plain
  bits := 53
  hasModifiers := false
  isStrict := false
  bareMark := true
  quotes := none
  notNumber := aboutValue "expected numeric value"
  notWhole := aboutValue "not completely converted"
  outOfRange := fun value => (aboutValue "Numerical result out of range" value, true)
  following := none
  noLetter := fun _ => "missing format character".toList
  badLetter := aboutValue "invalid directive"

/-- A character that has to be quoted in a word. -/
def needsQuoting (c : Char) : Bool :=
  " !\"$&'()*,;<>?[]^\\\x60|\x7b\x7d".toList.contains c

/-- A character that cannot be shown as it is. -/
def isHidden (c : Char) : Bool :=
  c.toNat < 32 || 126 < c.toNat

/-- A value as a word from which a shell reads it back. -/
def asWord (value : NarrowText) : NarrowText :=
  if value.isEmpty then "''".toList
  else if value.any isHidden then "$'".toList ++ value.flatMap hidden ++ ['\'']
  else
    (value.zipIdx).flatMap fun (c, place) =>
      if needsQuoting c || (place = 0 && (c = '~' || c = '#')) then ['\\', c] else [c]
where
  /-- A character between quotes in which escapes have a meaning. -/
  hidden (c : Char) : NarrowText :=
    match c.toNat with
    | 7 => ['\\', 'a']
    | 8 => ['\\', 'b']
    | 9 => ['\\', 't']
    | 10 => ['\\', 'n']
    | 11 => ['\\', 'v']
    | 12 => ['\\', 'f']
    | 13 => ['\\', 'r']
    | 27 => ['\\', 'E']
    | 39 | 92 => ['\\', c]
    | number =>
        if isHidden c then
          let digits := Numeral.digits 8 false number
          '\\' :: List.replicate (3 - digits.length) '0' ++ digits
        else [c]

/-- The formats of the extended language. -/
def richFormats : PrintStyle where
  formatEscapes := .richFormat
  valueEscapes := .richValue
  bits := 64
  hasModifiers := true
  isStrict := false
  bareMark := true
  quotes := some asWord
  notNumber := aboutValue "invalid number"
  notWhole := aboutValue "invalid number"
  outOfRange := fun value =>
    ("warning: ".toList ++ aboutValue "Numerical result out of range" value, false)
  following := none
  noLetter := fun shown => '\x60' :: shown ++ "': missing format character".toList
  badLetter := fun shown =>
    '\x60' :: shown.drop (shown.length - 1) ++ "': invalid format character".toList

/-- Print values in a format, or keep what is printed in a variable. -/
def printfWithOptions : Builtin := fun arguments => do
  let (options, words) ← readOptions "v:" arguments
  match words with
  | [] => Run.misuse []
  | format :: values => do
      let (fault, p) := richFormats.run format values
      let (parts, rest) := p.parts
      for (text, complaint) in parts do
        if options.isEmpty then Run.print text
        Run.complain complaint
      match options.getLast? with
      | none => Run.print rest
      | some (_, name) =>
          if isName (Run.splitIndex name).1 then Run.store name p.printed.reverse
          else Run.misuse ('\x60' :: name ++ "': not a valid identifier".toList)
      match fault with
      | some problem => Run.fault problem
      | none => Run.finish p.status

/-- Print values in a format. -/
def printf : Builtin := fun arguments => do
  let (_, words) ← readOptions "" arguments
  match words with
  | [] => Run.fault "usage: printf format [arg ...]".toList
  | format :: values => do
      let (fault, p) := formats.run format values
      for (_, complaint) in p.complaints.reverse do Run.complain complaint
      match fault with
      | some problem => do
          Run.print p.printed.reverse
          Run.fault problem
      | none => Run.showWith p.status p.printed.reverse

end Builtin
end Shell
end SyntaxCensus
