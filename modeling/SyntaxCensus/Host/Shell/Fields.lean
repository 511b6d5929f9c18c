import SyntaxCensus.Host.Text.Pattern
import SyntaxCensus.Text.Lines

/-!
# Fields

What words are expanded to is put together and split into fields.  Text from
quotes stays whole, and so does text that was written out; the values of
expansions are split at separators, each value by itself.

Main definitions:

- `Piece`: a part of an expanded word.
- `Piece.fields`: the fields of an expanded word.
- `Piece.joined`: the text of an expanded word that is not split.
-/

namespace SyntaxCensus
namespace Shell

/-- A part of an expanded word.  A list of arguments has zeros between them,
and each of them stays whole. -/
inductive Piece where
  | text (quoted splits : Bool) (text : NarrowText)
  | whole (text : NarrowText)
  deriving DecidableEq, Repr

/-- A field: its stretches of text, and whether they come from quotes. -/
structure Field where
  runs : List (Bool × NarrowText)
  deriving DecidableEq, Repr

namespace Field

/-- The text of a field. -/
def text (field : Field) : NarrowText :=
  (field.runs.map Prod.snd).flatten

/-- The characters of a field, and whether they come from quotes. -/
def marked (field : Field) : List Marked :=
  field.runs.flatMap fun (quoted, text) => text.map fun c => (c, quoted)

/-- Text outside quotes that may stand for names of files. -/
def mayMatch (field : Field) : Bool :=
  field.runs.any fun (quoted, text) =>
    !quoted && text.any fun c => c = '*' || c = '?' || c = '['

end Field

/-- The separators that hold if none are set. -/
def blankSeparators : NarrowText := [' ', '\t', '\n']

/-- The character between arguments. -/
def zero : Char := Char.ofNat 0

/-- The state of splitting: the fields that are found and the stretches of the
next one, the last one first.  A field is begun by any text, and by quotes even
if they hold none. -/
structure Splitting where
  fields : List Field := []
  runs : List (Bool × NarrowText) := []
  begun : Bool := false
  afterWhole : Bool := false

namespace Splitting

/-- Go on with a stretch of text. -/
def add (s : Splitting) (quoted : Bool) (text : NarrowText) : Splitting :=
  { s with
    runs := if text.isEmpty then s.runs else (quoted, text) :: s.runs
    begun := s.begun || quoted || !text.isEmpty }

/-- End a field. -/
def finish (s : Splitting) : Splitting :=
  { s with fields := ⟨s.runs.reverse⟩ :: s.fields, runs := [], begun := false }

/-- Split a value.  Separators that are blanks count as one together with one
other separator among them, and those before the first field do not count.
`held` is the text of the next field in reverse. -/
def split (separators : NarrowText) (gathers afterBlank : Bool) (held : NarrowText)
    (s : Splitting) : NarrowText → Splitting
  | [] => s.add false held.reverse
  | c :: rest =>
      let ends := c = zero || separators.contains c
      let blank := ends && (c = zero || blankSeparators.contains c)
      if afterBlank then
        if blank then split separators gathers true held s rest
        else split separators gathers false (if ends then held else [c]) s rest
      else if ends then
        if gathers && blank && held.isEmpty && !s.begun then
          split separators gathers false [] s rest
        else
          split separators gathers (gathers && blank) [] (s.add false held.reverse).finish rest
      else split separators gathers false (c :: held) s rest

/-- Go on with arguments that stay whole. -/
def addWhole (s : Splitting) : List NarrowText → Splitting
  | [] => s
  | [last] => { s.add true last with afterWhole := true }
  | first :: rest => addWhole (s.add true first).finish rest

/-- Go on with a part of a word. -/
def addPiece (separators : NarrowText) (s : Splitting) : Piece → Splitting
  | .text quoted false text => s.add quoted text
  | .text _ true text =>
      { split separators (!s.afterWhole) false [] s text with afterWhole := false }
  | .whole text => s.addWhole (Text.stretches zero text)

end Splitting

namespace Piece

/-- The fields of an expanded word. -/
def fields (separators : Option NarrowText) (pieces : List Piece) : List Field :=
  let s := pieces.foldl (Splitting.addPiece (separators.getD blankSeparators)) {}
  (if s.afterWhole || s.begun then s.finish else s).fields.reverse

/-- The text of a part of a word. -/
def content : Piece → NarrowText
  | .text _ _ content => content
  | .whole content => content

/-- The text of an expanded word that is not split. -/
def joined (pieces : List Piece) : NarrowText :=
  pieces.flatMap content

/-- The characters of an expanded word that is not split, and whether they
come from quotes. -/
def marked (pieces : List Piece) : List Marked :=
  pieces.flatMap fun piece =>
    match piece with
    | .text quoted _ content => content.map fun c => (c, quoted)
    | .whole content => content.map fun c => (c, true)

end Piece
end Shell
end SyntaxCensus
