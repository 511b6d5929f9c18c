import SyntaxCensus.Journal.Record
import SyntaxCensus.Regex.Notation.Meaning
import SyntaxCensus.Text.Lines

/-!
# Log filters

A filter says which records are shown.  It is a list of directives, each with
a threshold for the targets that begin with a given text or for all targets;
the most specific directive for a target decides.  An expression can be added that
the messages of shown records have to match.

Main definitions:

- `LogFilter.read`: the filter that a text spells.
- `LogFilter.shows`: whether a record is shown.
-/

namespace SyntaxCensus

/-- The least important records that are shown; nothing at all if there is no
threshold. -/
abbrev Threshold := Option Severity

/-- A record of a severity passes a threshold. -/
def Threshold.admits (threshold : Threshold) (severity : Severity) : Bool :=
  match threshold with
  | none => false
  | some least => decide (severity.rank ≤ least.rank)

/-- A threshold for the targets that begin with a text, or for all targets. -/
structure Directive where
  target : Option String
  threshold : Threshold
  deriving DecidableEq, Repr

/-- Directives, and an expression that matches somewhere in shown messages. -/
structure LogFilter where
  directives : List Directive
  wanted : Option Expression := none
  deriving DecidableEq, Repr

/-- The directive is about a target. -/
def Directive.concerns (directive : Directive) (target : String) : Bool :=
  match directive.target with
  | none => true
  | some beginning => beginning.toList.isPrefixOf target.toList

/-- How specific a directive is. -/
def Directive.weight (directive : Directive) : Nat :=
  (directive.target.getD "").utf8ByteSize

namespace LogFilter

/-- The most specific directive for a target; of two alike the later one. -/
def directiveFor? (filter : LogFilter) (target : String) : Option Directive :=
  filter.directives.foldl
    (fun best directive =>
      if !directive.concerns target then best
      else
        match best with
        | none => some directive
        | some other => if other.weight ≤ directive.weight then some directive else some other)
    none

/-- A record is shown. -/
def shows (filter : LogFilter) (record : Record) : Bool :=
  match filter.directiveFor? record.component.target with
  | none => false
  | some directive =>
      directive.threshold.admits record.severity &&
        filter.wanted.all fun expression => expression.occursIn record.message.toList

/-- One threshold for all targets. -/
def ofThreshold (threshold : Threshold) : LogFilter :=
  ⟨[⟨none, threshold⟩], none⟩

/-! ## Reading filters -/

/-- The threshold that a word names, in either case. -/
def threshold? (word : String) : Option Threshold :=
  match word.toLower with
  | "off" => some none
  | "error" => some (some .error)
  | "warn" => some (some .warning)
  | "info" => some (some .info)
  | "debug" => some (some .debug)
  | "trace" => some (some .trace)
  | _ => none

/-- The directive that a text spells, or what is wrong with the text. -/
def readDirective (text : String) : Except String Directive :=
  let invalid (part : String) : Except String Directive :=
    .error s!"invalid logging spec '{part}'"
  match Text.parts '=' text with
  | [word] =>
      match threshold? word with
      | some threshold => .ok ⟨none, threshold⟩
      | none => .ok ⟨some word, some .trace⟩
  | [target, word] =>
      let word := trimBlanks word
      if word.isEmpty then .ok ⟨some target, some .trace⟩
      else
        match threshold? word with
        | some threshold => .ok ⟨some target, threshold⟩
        | none => invalid word
  | _ => invalid text

/-- Put a directive in the place of one for the same target, or behind all. -/
def insertDirective (directives : List Directive) (directive : Directive) : List Directive :=
  if directives.any fun other => other.target = directive.target then
    directives.map fun other => if other.target = directive.target then directive else other
  else directives ++ [directive]

/-- The directives that texts spell, and what is wrong with the others. -/
def readDirectives (directives : List Directive) (problems : List String) :
    List String → List Directive × List String
  | [] => (directives, problems)
  | text :: rest =>
      if text.isEmpty then readDirectives directives problems rest
      else
        match readDirective text with
        | .ok directive => readDirectives (insertDirective directives directive) problems rest
        | .error problem => readDirectives directives (problems ++ [problem]) rest

/-- The filter that directives spell, and what is wrong with parts of them.
Without directives, errors are shown. -/
def ofDirectives (parts : String) (wanted : Option Expression) : LogFilter × List String :=
  let (directives, problems) := readDirectives [] [] ((Text.parts ',' parts).map trimBlanks)
  (⟨if directives.isEmpty then [⟨none, some .error⟩] else directives, wanted⟩, problems)

/-- The filter that a text spells, and what is wrong with parts of the text.
What follows a slash is an expression for messages. -/
def read (text : String) : LogFilter × List String :=
  match Text.parts '/' text with
  | [parts] => ofDirectives parts none
  | [parts, wanted] =>
      match Regex.read wanted.toList with
      | .ok expression => ofDirectives parts (some expression)
      | .error problem =>
          let (filter, problems) := ofDirectives parts none
          (filter, problems ++ ["invalid regex filter - " ++ problem.message wanted.toList])
  | _ =>
      (⟨[⟨none, some .error⟩], none⟩, [s!"invalid logging spec '{text}' (too many '/'s)"])

end LogFilter
end SyntaxCensus
