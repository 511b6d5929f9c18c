import SyntaxCensus.Host.Shell.State
import SyntaxCensus.Host.Text.Numeral

/-!
# Commands of the shell

What the commands have in common that a shell carries out by itself: options,
numbers among their arguments, and results.

Main definitions:

- `Builtin`: a command of the shell.
- `readOptions`: the options among arguments.
- `Run.show`: print a result.
-/

namespace SyntaxCensus
namespace Shell

/-- A command of the shell: what it does with its arguments. -/
abbrev Builtin := List NarrowText → Run Unit

/-- Options with their values, and the arguments that follow them. -/
abbrev Options := List (Char × NarrowText) × List NarrowText

/-- An option takes a value. -/
def takesValue (known : List Char) (option : Char) : Bool :=
  match known.dropWhile (· ≠ option) with
  | _ :: ':' :: _ => true
  | _ => false

/-- What is wrong with options. -/
inductive OptionFault where
  | unknown (option : Char)
  | noValue (option : Char)
  deriving DecidableEq, Repr

/-- What a plain shell says about options. -/
def OptionFault.message : OptionFault → NarrowText
  | unknown c => "Illegal option -".toList ++ [c]
  | noValue c => "No arg for -".toList ++ c :: " option".toList

/-- What the extended language says about the options of a script. -/
def OptionFault.inWords : OptionFault → NarrowText
  | unknown c => "illegal option -- ".toList ++ [c]
  | noValue c => "option requires an argument -- ".toList ++ [c]

/-- The options that a word spells, and the one whose value is the next
word. -/
def spellOptions (known : List Char) :
    NarrowText → Except OptionFault (List (Char × NarrowText) × Option Char)
  | [] => .ok ([], none)
  | c :: rest =>
      if c = ':' ∨ !known.contains c then .error (.unknown c)
      else if takesValue known c then
        if rest.isEmpty then .ok ([], some c) else .ok ([(c, rest)], none)
      else
        match spellOptions known rest with
        | .ok (found, last) => .ok ((c, []) :: found, last)
        | .error fault => .error fault

/-- The options among arguments.  They end at the first word that is none, or
behind two dashes. -/
def findOptions (known : List Char) : List NarrowText → Except OptionFault Options
  | [] => .ok ([], [])
  | word :: rest =>
      match word with
      | ['-', '-'] => .ok ([], rest)
      | '-' :: c :: letters =>
          match spellOptions known (c :: letters), rest with
          | .error fault, _ => .error fault
          | .ok (found, none), rest =>
              match findOptions known rest with
              | .ok (more, after) => .ok (found ++ more, after)
              | .error fault => .error fault
          | .ok (_, some last), [] => .error (.noValue last)
          | .ok (found, some last), value :: others =>
              match findOptions known others with
              | .ok (more, after) => .ok (found ++ (last, value) :: more, after)
              | .error fault => .error fault
      | _ => .ok ([], word :: rest)

/-- How commands of the shell are used, in the words of the extended
language. -/
def usages : List (String × String) :=
  [(".", "filename [arguments]"), ("alias", "[-p] [name[=value] ... ]"),
    ("cd", "[-L|[-P [-e]] [-@]] [dir]"), ("command", "[-pVv] command [arg ...]"),
    ("declare", "[-aAfFgiIlnrtux] [name[=value] ...] or declare -p [-aAfFilnrtux] [name ...]"),
    ("eval", "[arg ...]"),
    ("exec", "[-cl] [-a name] [command [argument ...]] [redirection ...]"),
    ("export", "[-fn] [name[=value] ...] or export -p"), ("getopts", "optstring name [arg ...]"),
    ("hash", "[-lr] [-p pathname] [-dt] [name ...]"), ("local", "[option] name[=value] ..."),
    ("mapfile", rowUsage), ("printf", "[-v var] format [arguments]"), ("pwd", "[-LP]"),
    ("read", "[-ers] [-a array] [-d delim] [-i text] [-n nchars] [-N nchars] [-p prompt] " ++
      "[-t timeout] [-u fd] [name ...]"), ("readarray", rowUsage),
    ("readonly", "[-aAf] [name[=value] ...] or readonly -p"),
    ("set", "[-abefhkmnptuvxBCEHPT] [-o option-name] [--] [-] [arg ...]"),
    ("shopt", "[-pqsu] [-o] [optname ...]"), ("source", "filename [arguments]"), ("times", ""),
    ("trap", "[-lp] [[arg] signal_spec ...]"), ("type", "[-afptP] name [name ...]"),
    ("typeset", "[-aAfFgiIlnrtux] name[=value] ... or typeset -p [-aAfFilnrtux] [name ...]"),
    ("umask", "[-p] [-S] [mode]"), ("unalias", "[-a] name [name ...]"),
    ("unset", "[-f] [-v] [-n] [name ...]"), ("wait", "[-fn] [-p var] [id ...]")]
where
  /-- How lines are read into the elements of a row. -/
  rowUsage : String :=
    "[-d delim] [-n count] [-O origin] [-s count] [-t] [-u fd] [-C callback] [-c quantum] [array]"

/-- Say how the command that runs is used. -/
def Run.explainUse : Run Unit := do
  match (← get).commandName with
  | none => return
  | some name =>
      match usages.find? fun entry => entry.1.toList = name with
      | some (_, usage) => do
          let line := name ++ ": usage: ".toList ++ name ++ ' ' :: usage.toList
          Run.printDiagnostic (line.reverse.dropWhile (· = ' ')).reverse
      | none => return

/-- Complain about words from which it is not clear what the command that runs
is to do. -/
def Run.misuse {α : Type} (message : NarrowText) : Run α := do
  if !message.isEmpty then Run.complain message
  Run.explainUse
  Run.finish 2
  throw .failing

/-- The options among arguments; one that is not known ends the command. -/
def readOptions (known : String) (arguments : List NarrowText) : Run Options := do
  match findOptions known.toList arguments, (← get).extended with
  | .ok found, _ => return found
  | .error (.unknown c), true => Run.misuse ('-' :: c :: ": invalid option".toList)
  | .error (.noValue c), true => Run.misuse ('-' :: c :: ": option requires an argument".toList)
  | .error fault, false => Run.fault fault.message

namespace Run

/-- The number that an argument spells. -/
def naturalArgument (text : NarrowText) : Run Nat :=
  match Numeral.natural? text with
  | some value => return value
  | none =>
      faultIn ("Illegal number: ".toList ++ text) (text ++ ": numeric argument required".toList)

/-- Print the result of a command with a status, unless that is not
possible. -/
def showWith (status : Nat) (text : NarrowText) : Run Unit := do
  match ← print? text with
  | none => finish status
  | some _ => do
      complain (((← get).commandName.getD []) ++ ": I/O error".toList)
      finish 1

/-- Print the result of a command. -/
def «show» (text : NarrowText) : Run Unit :=
  showWith 0 text

/-- A text in quotes from which a shell reads it back. -/
def inQuotes (text : NarrowText) : NarrowText :=
  '\'' :: text.flatMap (fun c => if c = '\'' then "'\"'\"'".toList else [c]) ++ ['\'']

end Run
end Shell
end SyntaxCensus
