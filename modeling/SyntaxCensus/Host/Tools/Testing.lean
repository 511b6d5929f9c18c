import SyntaxCensus.Host.Process.Counted
import SyntaxCensus.Host.Tools.Options

/-!
# Testing

The tools that test conditions on texts, numbers and files.

Main definitions:

- `Tools.test`, `Tools.bracket`: the tools.
-/

namespace SyntaxCensus
namespace Tools

/-- The conditions of tools. -/
def conditions : ConditionStyle where
  missing := fun last => "missing argument after ".toList ++ Work.quoted last
  noSingle := fun word => Work.quoted word ++ ": unary operator expected".toList
  noPair := fun _ => []
  noDouble := fun word => Work.quoted word ++ ": binary operator expected".toList
  extra := fun word => "extra argument ".toList ++ Work.quoted word
  unclosed := fun found =>
    "')' expected".toList ++
      match found with
      | none => []
      | some word => ", found ".toList ++ Work.quoted word
  number := fun text =>
    match Numeral.signed? Numeral.decimal? text with
    | some (value, rest) =>
        if rest.all fun c => c = ' ' || c = '\t' then .ok value else .error (noNumber text)
    | none => .error (noNumber text)
  further := fun word => if word = ['-', 'N'] then some fun _ => false else none
where
  /-- What is said about a text that is no number. -/
  noNumber (text : NarrowText) : NarrowText :=
    "invalid integer ".toList ++ Work.quoted text

/-- Finish with what a condition says. -/
def testWords (tool : NarrowText) (words : List NarrowText) : Work Nat := do
  let style := { conditions with noPair := fun _ => conditions.missing (words.getLastD []) }
  match Counted.evaluate style (← get) words with
  | .ok holds => return Work.statusOf holds
  | .error problem => do
      Work.complain tool problem
      return 2

/-- Test a condition. -/
def test : Tool := fun _ tool words => testWords tool words

/-- Test a condition that a bracket ends. -/
def bracket : Tool := fun _ tool words => do
  match words.reverse with
  | [']'] :: inside => testWords tool inside.reverse
  | _ => do
      Work.complain tool "missing ']'".toList
      return 2

end Tools
end SyntaxCensus
