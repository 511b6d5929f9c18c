import SyntaxCensus.Host.Text.Escapes
import SyntaxCensus.Host.Text.Posix

/-!
# Expressions of programs on records

Programs spell expressions in the extended notation, where a backslash with a
letter or with digits stands for a character as it does in texts.

Main definitions:

- `Records.expression?`: the expression that a text spells.
- `Records.replaced`: a text with matches replaced.
-/

namespace SyntaxCensus
namespace Records

/-- A character that stands for itself wherever it is. -/
def literal (c : Char) : NarrowText :=
  if ".^$*+?()[]|\\\x7b\x7d".toList.contains c then ['\\', c] else [c]

/-- An expression with its escapes replaced as far as they stand for
characters; `limit` bounds the number of steps. -/
def withoutEscapes : Nat → NarrowText → NarrowText
  | 0, text => text
  | _, [] => []
  | limit + 1, '\\' :: c :: rest =>
      let octal := EscapeStyle.digitsInFront 8 3 (c :: rest)
      if !octal.isEmpty then
        literal (EscapeStyle.octet (Numeral.ofDigits 8 octal)) ++
          withoutEscapes limit ((c :: rest).drop octal.length)
      else
        match EscapeStyle.letter? c with
        | some meant => literal meant ++ withoutEscapes limit rest
        | none => literal c ++ withoutEscapes limit rest
  | limit + 1, '[' :: rest =>
      let (inner, after) := setInFront rest
      '[' :: inner ++ withoutEscapes limit after
  | limit + 1, c :: rest => c :: withoutEscapes limit rest
where
  /-- The text between brackets with the closing one, and what follows. -/
  setInFront (text : NarrowText) : NarrowText × NarrowText :=
    match text with
    | '^' :: ']' :: rest => let (more, after) := upToClosing rest; ('^' :: ']' :: more, after)
    | ']' :: rest => let (more, after) := upToClosing rest; (']' :: more, after)
    | _ => upToClosing text
  /-- The text up to a closing bracket, and what follows. -/
  upToClosing : NarrowText → NarrowText × NarrowText
    | [] => ([], [])
    | ']' :: rest => ([']'], rest)
    | '\\' :: c :: rest => let (more, after) := upToClosing rest; ('\\' :: c :: more, after)
    | '[' :: ':' :: rest => let (more, after) := insideClass rest; ('[' :: ':' :: more, after)
    | c :: rest => let (more, after) := upToClosing rest; (c :: more, after)
  /-- The text of a class up to its end and then up to a closing bracket. -/
  insideClass : NarrowText → NarrowText × NarrowText
    | [] => ([], [])
    | ':' :: ']' :: rest => let (more, after) := upToClosing rest; (':' :: ']' :: more, after)
    | c :: rest => let (more, after) := insideClass rest; (c :: more, after)

/-- The notation of expressions. -/
def dialect : Posix.Dialect := { extended := true, escapes := true }

/-- The expression that a text spells. -/
def expression? (text : NarrowText) : Except Posix.Fault Expression :=
  (Posix.read dialect (withoutEscapes text.length text)).map Prod.fst

/-- What is put in the place of a match: the match itself for an ampersand,
unless a backslash stands before it. -/
def replacement (matched : NarrowText) : NarrowText → NarrowText
  | [] => []
  | '\\' :: '&' :: rest => '&' :: replacement matched rest
  | '\\' :: '\\' :: '&' :: rest => '\\' :: matched ++ replacement matched rest
  | '&' :: rest => matched ++ replacement matched rest
  | c :: rest => c :: replacement matched rest

/-- A part of a text. -/
def slice (text : Array Char) (first last : Nat) : NarrowText :=
  (text.extract first last).toList

/-- A text with its first match replaced, or all of them, from a place on, and
how many there were; at most `limit`.  An empty match does not stand directly
behind another match. -/
def replacedFrom (everywhere : Bool) (expression : Expression) (put : NarrowText)
    (text : Array Char) (place : Nat) (behind : Bool) : Nat → NarrowText × Nat
  | 0 => (slice text place text.size, 0)
  | limit + 1 =>
      match expression.find? text place with
      | none => (slice text place text.size, 0)
      | some found =>
          let extent := found.extent
          let before := slice text place extent.first
          let isEmpty := extent.first = extent.last
          if isEmpty ∧ behind = true ∧ extent.first = place then
            if text.size ≤ place then ([], 0)
            else
              let (rest, count) :=
                replacedFrom everywhere expression put text (place + 1) false limit
              (slice text place (place + 1) ++ rest, count)
          else
            let written := before ++ replacement (slice text extent.first extent.last) put
            if !everywhere then (written ++ slice text extent.last text.size, 1)
            else if isEmpty then
              if text.size ≤ extent.last then (written, 1)
              else
                let (rest, count) :=
                  replacedFrom everywhere expression put text (extent.last + 1) false limit
                (written ++ slice text extent.last (extent.last + 1) ++ rest, count + 1)
            else
              let (rest, count) :=
                replacedFrom everywhere expression put text extent.last true limit
              (written ++ rest, count + 1)

/-- A text with its first match replaced, or all of them, and how many there
were. -/
def replaced (everywhere : Bool) (expression : Expression) (put text : NarrowText) :
    NarrowText × Nat :=
  replacedFrom everywhere expression put text.toArray 0 false (text.length + 2)

/-- The parts of a text between matches that are not empty; at most `limit`
matches. -/
def partsFrom (expression : Expression) (text : Array Char) (place start : Nat) :
    Nat → List NarrowText
  | 0 => [slice text place text.size]
  | limit + 1 =>
      match expression.find? text start with
      | none => [slice text place text.size]
      | some found =>
          if found.extent.first = found.extent.last then
            if text.size ≤ start then [slice text place text.size]
            else partsFrom expression text place (found.extent.first + 1) limit
          else
            slice text place found.extent.first ::
              partsFrom expression text found.extent.last found.extent.last limit

/-- The parts of a text between matches; an empty text has none. -/
def parts (expression : Expression) (text : NarrowText) : List NarrowText :=
  if text.isEmpty then [] else partsFrom expression text.toArray 0 0 (text.length + 1)

end Records
end SyntaxCensus
