import SyntaxCensus.Host.Tools.Basic

/-!
# Options of tools

Options are letters behind one dash or names behind two, and may have values.
They may stand behind other arguments, up to two dashes by themselves.

Main definitions:

- `KnownOption`: an option that a tool knows.
- `findOptions`: the options among arguments.
- `Work.options`: the same for a tool, which ends if there is a fault.
-/

namespace SyntaxCensus
namespace Tools

/-- Whether an option has a value. -/
inductive ValueUse where
  | never
  | always
  | perhaps
  deriving DecidableEq, Repr

/-- An option that a tool knows, by its letter, by its name, or by both.  It is
told apart by its key. -/
structure KnownOption where
  key : String
  letter : Option Char
  name : Option String
  use : ValueUse
  deriving DecidableEq, Repr

/-- An option of a letter. -/
def flag (letter : Char) : KnownOption :=
  ⟨String.singleton letter, some letter, none, .never⟩

/-- An option of a letter and a name. -/
def option (letter : Char) (name : String) : KnownOption :=
  ⟨String.singleton letter, some letter, some name, .never⟩

/-- An option of a letter and a name with a value. -/
def valued (letter : Char) (name : String) : KnownOption :=
  ⟨String.singleton letter, some letter, some name, .always⟩

/-- An option of a name. -/
def long (name : String) : KnownOption :=
  ⟨name, none, some name, .never⟩

/-- An option of a name with a value. -/
def longValued (name : String) : KnownOption :=
  ⟨name, none, some name, .always⟩

/-- An option of a name that may have a value. -/
def longPerhaps (name : String) : KnownOption :=
  ⟨name, none, some name, .perhaps⟩

/-- The options that are found, with their values, and the other arguments. -/
structure Found where
  options : List (String × NarrowText)
  operands : List NarrowText
  deriving DecidableEq, Repr

namespace Found

/-- An option is among those that are found. -/
def has (found : Found) (key : String) : Bool :=
  found.options.any fun entry => entry.1 = key

/-- The value of an option; if it is given several times, the last one. -/
def value? (found : Found) (key : String) : Option NarrowText :=
  (found.options.reverse.find? fun entry => entry.1 = key).map Prod.snd

/-- The values of an option in order. -/
def values (found : Found) (key : String) : List NarrowText :=
  (found.options.filter fun entry => entry.1 = key).map Prod.snd

/-- The last option of some that exclude each other. -/
def lastOf (found : Found) (keys : List String) : Option String :=
  (found.options.reverse.find? fun entry => keys.contains entry.1).map Prod.fst

end Found

/-- The option of a letter. -/
def byLetter? (known : List KnownOption) (letter : Char) : Option KnownOption :=
  known.find? fun entry => entry.letter = some letter

/-- The options whose names begin with a text; the one that it spells out comes
alone. -/
def byName (known : List KnownOption) (name : NarrowText) : List KnownOption :=
  match known.find? fun entry => entry.name.any fun full => full.toList = name with
  | some exact => [exact]
  | none => known.filter fun entry => entry.name.any fun full => name.isPrefixOf full.toList

/-- The options that the letters of a word spell, and the one whose value is
the next word. -/
def spellLetters (known : List KnownOption) :
    NarrowText → Except NarrowText (List (String × NarrowText) × Option KnownOption)
  | [] => .ok ([], none)
  | c :: rest =>
      match byLetter? known c with
      | none => .error ("invalid option -- '".toList ++ [c, '\''])
      | some found =>
          match found.use with
          | .never =>
              match spellLetters known rest with
              | .ok (others, last) => .ok ((found.key, []) :: others, last)
              | .error problem => .error problem
          | .always =>
              if rest.isEmpty then .ok ([], some found) else .ok ([(found.key, rest)], none)
          | .perhaps => .ok ([(found.key, rest)], none)

/-- The option that a name spells, and whether its value is the next word. -/
def spellName (known : List KnownOption) (text : NarrowText) :
    Except NarrowText (List (String × NarrowText) × Option KnownOption) :=
  let name := text.takeWhile (· ≠ '=')
  let value? :=
    match text.dropWhile (· ≠ '=') with
    | _ :: value => some value
    | [] => none
  match byName known name with
  | [] => .error ("unrecognized option '--".toList ++ text ++ ['\''])
  | [found] =>
      let full := (found.name.getD "").toList
      match found.use, value? with
      | .never, none => .ok ([(found.key, [])], none)
      | .never, some _ =>
          .error ("option '--".toList ++ full ++ "' doesn't allow an argument".toList)
      | .always, none => .ok ([], some found)
      | .always, some value => .ok ([(found.key, value)], none)
      | .perhaps, value => .ok ([(found.key, value.getD [])], none)
  | several =>
      .error ("option '--".toList ++ text ++ "' is ambiguous; possibilities:".toList ++
        several.flatMap fun found => " '--".toList ++ (found.name.getD "").toList ++ ['\''])

/-- What is said if the value of an option is missing. -/
def lackingValue (long : Bool) (found : KnownOption) : NarrowText :=
  if long then
    "option '--".toList ++ (found.name.getD "").toList ++ "' requires an argument".toList
  else "option requires an argument -- '".toList ++ (found.letter.toList) ++ ['\'']

/-- The options among arguments.  `mixed` says that they may stand behind other
arguments. -/
def findOptions (known : List KnownOption) (mixed : Bool) :
    List NarrowText → Except NarrowText Found
  | [] => .ok ⟨[], []⟩
  | word :: rest =>
      let isLong := decide (word.take 2 = ['-', '-'])
      if word = ['-', '-'] then .ok ⟨[], rest⟩
      else if word.head? = some '-' ∧ word.length ≠ 1 then
        match (if isLong then spellName known (word.drop 2) else spellLetters known (word.drop 1)),
          rest with
        | .error problem, _ => .error problem
        | .ok (found, none), rest =>
            match findOptions known mixed rest with
            | .ok others => .ok ⟨found ++ others.options, others.operands⟩
            | .error problem => .error problem
        | .ok (_, some last), [] => .error (lackingValue isLong last)
        | .ok (found, some last), value :: more =>
            match findOptions known mixed more with
            | .ok others => .ok ⟨found ++ (last.key, value) :: others.options, others.operands⟩
            | .error problem => .error problem
      else if mixed then
        match findOptions known mixed rest with
        | .ok others => .ok ⟨others.options, word :: others.operands⟩
        | .error problem => .error problem
      else .ok ⟨[], word :: rest⟩

/-- What is said about a tool that is not used as it should be. -/
def hint (tool : NarrowText) : NarrowText :=
  "Try '".toList ++ tool ++ " --help' for more information.".toList

/-- End a tool that is not used as it should be. -/
def misuse {α : Type} (tool : NarrowText) (status : Nat) (message : NarrowText) : Work α := do
  Work.complain tool message
  Work.printDiagnostic (hint tool)
  Work.exit status

/-- The options among the arguments of a tool, which ends with a status if
there is a fault among them. -/
def optionsOf (tool : NarrowText) (status : Nat) (known : List KnownOption) (mixed : Bool)
    (arguments : List NarrowText) : Work Found := do
  match findOptions known mixed arguments with
  | .ok found => return found
  | .error problem => misuse tool status problem

/-- End a tool that lacks an operand. -/
def missingOperand {α : Type} (tool : NarrowText) (after : Option NarrowText) : Work α :=
  match after with
  | none => misuse tool 1 "missing operand".toList
  | some last => misuse tool 1 ("missing operand after ".toList ++ Work.quoted last)

/-- End a tool that has an operand too much. -/
def extraOperand {α : Type} (tool operand : NarrowText) : Work α :=
  misuse tool 1 ("extra operand ".toList ++ Work.quoted operand)

end Tools
end SyntaxCensus
