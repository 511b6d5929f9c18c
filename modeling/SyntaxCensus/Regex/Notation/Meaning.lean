import SyntaxCensus.Regex.Matching
import SyntaxCensus.Regex.Notation.Reader

/-!
# What terms mean

Settings decide what a dot, an edge or a class stands for.  No tables of the
properties of characters beyond ASCII are at hand: terms that need one have no
meaning.

Main definitions:

- `Term.meaning`: the expression that a term stands for.
- `Regex.read`: the expression that a text spells, or why there is none.
-/

namespace SyntaxCensus
namespace Regex

/-- The settings that hold for a term. -/
structure Settings where
  anyCase : Bool := false
  lineEdges : Bool := false
  dotMatchesLineFeed : Bool := false
  unicode : Bool := true
  carriageReturns : Bool := false
  deriving DecidableEq, Repr

namespace Settings

/-- The settings after a change. -/
def change (settings : Settings) (change : FlagChange) : Settings :=
  match change.flag with
  | .anyCase => { settings with anyCase := change.on }
  | .lineEdges => { settings with lineEdges := change.on }
  | .dotMatchesLineFeed => { settings with dotMatchesLineFeed := change.on }
  | .unicode => { settings with unicode := change.on }
  | .carriageReturns => { settings with carriageReturns := change.on }
  | .lazy | .spaced => settings

end Settings

/-- A set of characters, or why a part of the text has no meaning. -/
abbrev SetMeaning := Except NotationFault CharacterSet

/-- The characters beyond ASCII that a set holds are not told apart from parts
of characters unless the text is read as Unicode. -/
def checkedSet (settings : Settings) (span : Span) (negated : Bool) (set : CharacterSet) :
    SetMeaning :=
  if settings.anyCase ∧ settings.unicode then .error ⟨.caseNeedsTable, span, none⟩
  else if negated ∧ !settings.unicode then .error ⟨.notText, span, none⟩
  else
    let set := if settings.anyCase then .anyCase set else set
    .ok (if negated then .complement set else set)

/-- The ASCII characters of a class with one letter. -/
def LetterClass.set : LetterClass → CharacterSet
  | .digit => .digits
  | .space => .blanks
  | .word => .wordCharacters

/-- A character beyond ASCII that stands for an octet is no text. -/
def isLoneOctet (settings : Settings) (c : Char) (byte : Bool) : Bool :=
  !settings.unicode && byte && decide (0x80 ≤ c.toNat)

/-- The characters of a class. -/
def ClassTerm.meaning (settings : Settings) : ClassTerm → SetMeaning
  | .empty => .ok .empty
  | .literal span c byte =>
      if isLoneOctet settings c byte then .error ⟨.notText, span, none⟩
      else if !settings.unicode ∧ 0x80 ≤ c.toNat then .error ⟨.notUnicode, span, none⟩
      else .ok (.single c)
  | .range span low high =>
      if !settings.unicode ∧ 0x80 ≤ high.toNat then .error ⟨.notUnicode, span, none⟩
      else .ok (.range low.toNat high.toNat)
  | .named span negated set => checkedSet settings span negated set
  | .letter span negated kind =>
      if settings.unicode then .error ⟨.classNeedsTable, span, none⟩
      else checkedSet { settings with anyCase := false } span negated kind.set
  | .property span isCategory =>
      if !settings.unicode then .error ⟨.notUnicode, span, none⟩
      else .error ⟨if isCategory then .propertyValueUnknown else .propertyUnknown, span, none⟩
  | .bracketed span negated inner => do
      let set ← inner.meaning settings
      checkedSet settings span negated set
  | .union first second => do
      let first ← first.meaning settings
      let second ← second.meaning settings
      return .union first second
  | .operation kind first second => do
      let first ← first.meaning settings
      let second ← second.meaning settings
      match kind with
      | .intersection => return .intersection first second
      | .difference => return .difference first second
      | .symmetricDifference => return .symmetricDifference first second

/-- The character of a literal in the case that is asked for. -/
def literalMeaning (settings : Settings) (span : Span) (c : Char) (byte : Bool) :
    Except NotationFault Expression :=
  if isLoneOctet settings c byte then .error ⟨.notText, span, none⟩
  else if settings.anyCase ∧ settings.unicode then .error ⟨.caseNeedsTable, span, none⟩
  else if settings.anyCase then .ok (.one (.anyCase (.single c)))
  else .ok (.one (.single c))

/-- The characters that a dot stands for. -/
def dotMeaning (settings : Settings) (span : Span) : Except NotationFault Expression :=
  if !settings.unicode then .error ⟨.notText, span, none⟩
  else if settings.dotMatchesLineFeed then .ok (.one .all)
  else if settings.carriageReturns then .ok (.one (.complement (.ofText ['\n', '\r'])))
  else .ok (.one .notLineFeed)

/-- The edge that a term asks for. -/
def EdgeTerm.meaning (settings : Settings) : EdgeTerm → Edge
  | .lineStart => if settings.lineEdges then .lineStart else .textStart
  | .lineEnd => if settings.lineEdges then .lineEnd else .textEnd
  | .textStart => .textStart
  | .textEnd => .textEnd
  | .wordEdge => .wordEdge
  | .noWordEdge => .noWordEdge
  | .wordStart => .wordStart
  | .wordEnd => .wordEnd
  | .beforeWord => .beforeWord
  | .afterWord => .afterWord

/-- The edge needs to know the letters beyond ASCII. -/
def EdgeTerm.needsTable (settings : Settings) : EdgeTerm → Bool
  | .lineStart | .lineEnd | .textStart | .textEnd => false
  | _ => settings.unicode

/-- Why a text spells no expression. -/
inductive ReadProblem where
  | fault (fault : NotationFault)
  | noAutomaton
  | tooLarge (limit : Nat)
  deriving DecidableEq, Repr

/-- The expression that a term stands for, whether it has an edge that needs a
table, and the settings after the term. -/
def Term.meaning (settings : Settings) :
    Term → Except NotationFault (Expression × Bool × Settings)
  | .empty => .ok (.empty, false, settings)
  | .flags changes => .ok (.empty, false, changes.foldl .change settings)
  | .literal span c byte => do
      return (← literalMeaning settings span c byte, false, settings)
  | .dot span => do return (← dotMeaning settings span, false, settings)
  | .edge place => .ok (.edge (place.meaning settings), place.needsTable settings, settings)
  | .characters set => do return (.one (← set.meaning settings), false, settings)
  | .repetition inner least most => do
      let (inner, needy, settings) ← inner.meaning settings
      return (.repeated inner least most, needy, settings)
  | .group changes inner => do
      let (inner, needy, _) ← inner.meaning (changes.foldl .change settings)
      return (inner, needy, settings)
  | .choice first second => do
      let (first, needy, settings) ← first.meaning settings
      let (second, alsoNeedy, settings) ← second.meaning settings
      return (.choice first second, needy || alsoNeedy, settings)
  | .sequence first second => do
      let (first, needy, settings) ← first.meaning settings
      let (second, alsoNeedy, settings) ← second.meaning settings
      return (.sequence first second, needy || alsoNeedy, settings)

/-- The most octets that an expression may need when it is laid out. -/
def sizeLimit : Nat := 10485760

/-- The octets that each character of an expression needs when it is laid
out. -/
def characterSize : Nat := 40

/-- The expression that a text spells, or why there is none. -/
def read (text : List Char) : Except ReadProblem Expression :=
  match Term.read text with
  | .error fault => .error (.fault fault)
  | .ok term =>
      match term.meaning {} with
      | .error fault => .error (.fault fault)
      | .ok (expression, needy, _) =>
          if needy then .error .noAutomaton
          else if sizeLimit < characterSize * expression.unfoldedSize then
            .error (.tooLarge sizeLimit)
          else .ok expression

/-- Why a text spells no expression, in words. -/
def ReadProblem.message (text : List Char) : ReadProblem → String
  | .fault found => found.message text
  | .noAutomaton => "error building NFA"
  | .tooLarge limit => s!"Compiled regex exceeds size limit of {limit} bytes."

end Regex
end SyntaxCensus
