import SyntaxCensus.Host.Tools.Listing

/-!
# Seeking files

The tool that walks through directories and does something with the entries for
which a condition holds.

Main definitions:

- `Seeking.Condition`: what is asked of an entry, and what is done with it.
- `Seeking.read`: the condition that words spell.
- `Tools.find`: the tool.
-/

namespace SyntaxCensus
namespace Tools
namespace Seeking

/-! ## Conditions -/

/-- How a number is compared with one that is asked for. -/
inductive Bound where
  | exactly
  | above
  | below
  deriving DecidableEq, Repr

/-- What is asked of an entry, and what is done with it. -/
inductive Condition where
  | always (holds : Bool)
  | name (loose : Bool) (pattern : NarrowText)
  | path (loose : Bool) (pattern : NarrowText)
  | kind (letters : NarrowText)
  | empty
  | size (bound : Bound) (count unit : Nat)
  | age (bound : Bound) (count : Nat)
  | mode (digits : NarrowText)
  | executable
  | print (ending : Char)
  | printFormat (format : NarrowText)
  | list
  | call (words : List NarrowText)
  | callOnce (number : Nat) (words : List NarrowText)
  | delete
  | prune
  | quit
  | not (condition : Condition)
  | both (first second : Condition)
  | either (first second : Condition)
  | follows (first second : Condition)
  deriving Repr

/-- A condition does something that takes the place of printing the path. -/
def Condition.acts : Condition → Bool
  | .print _ | .printFormat _ | .list | .call _ | .callOnce _ _ | .delete | .quit => true
  | .not condition => condition.acts
  | .both first second | .either first second | .follows first second =>
      first.acts || second.acts
  | _ => false

/-- What holds for a whole walk. -/
structure Walk where
  follows : Bool := false
  least : Nat := 0
  most : Option Nat := none
  innerFirst : Bool := false
  deriving Repr

/-- What is left of the words, and what was found out about the walk. -/
structure Reader where
  words : List NarrowText
  walk : Walk := {}
  collected : Nat := 0

/-- A step of reading a condition; it may end with a complaint. -/
abbrev Reading (α : Type) := StateT Reader (Except NarrowText) α

/-- The argument of a test. -/
def argument (test : NarrowText) : Reading NarrowText := do
  match (← get).words with
  | [] => throw ("missing argument to \x60".toList ++ test ++ ['\''])
  | word :: rest => do
      modify fun r => { r with words := rest }
      return word

/-- A number that is an argument of a test, and how it is compared. -/
def comparison (test text : NarrowText) : Reading (Bound × Nat × NarrowText) := do
  let (bound, digits) :=
    match text with
    | '+' :: digits => (Bound.above, digits)
    | '-' :: digits => (Bound.below, digits)
    | digits => (Bound.exactly, digits)
  match Numeral.decimal? digits with
  | some (count, rest) => return (bound, count, rest)
  | none =>
      throw ("invalid argument \x60".toList ++ text ++ "' to \x60".toList ++ test ++ ['\''])

/-- A number of levels. -/
def levels (test : NarrowText) : Reading Nat := do
  let text ← argument test
  match Numeral.natural? text with
  | some count => return count
  | none =>
      throw ("Expected a positive decimal integer argument to ".toList ++ test ++
        ", but got ".toList ++ Shown.quotedWord text)

/-- The words of a command up to the mark that ends them; the flag says that it
is started once for many entries. -/
def commandWords (test : NarrowText) (found : List NarrowText) :
    List NarrowText → Reading (List NarrowText × Bool)
  | [] => throw ("missing argument to \x60".toList ++ test ++ ['\''])
  | [';'] :: rest => do
      modify fun r => { r with words := rest }
      return (found.reverse, false)
  | ['+'] :: rest =>
      match found with
      | ['\x7b', '\x7d'] :: front => do
          modify fun r => { r with words := rest }
          return (front.reverse, true)
      | _ => commandWords test (['+'] :: found) rest
  | word :: rest => commandWords test (word :: found) rest

/-- The octets of the units in which sizes are told. -/
def sizeUnit? (letters : NarrowText) : Option Nat :=
  match letters with
  | [] | ['b'] => some 512
  | ['c'] => some 1
  | ['w'] => some 2
  | ['k'] => some 1024
  | ['M'] => some 1048576
  | ['G'] => some 1073741824
  | _ => none

/-- The condition that a test by itself is. -/
def readTest (test : NarrowText) : Reading Condition := do
  match String.ofList test with
  | "-true" => return .always true
  | "-false" => return .always false
  | "-name" => return .name false (← argument test)
  | "-iname" => return .name true (← argument test)
  | "-path" | "-wholename" => return .path false (← argument test)
  | "-ipath" | "-iwholename" => return .path true (← argument test)
  | "-empty" => return .empty
  | "-executable" => return .executable
  | "-readable" | "-writable" => return .always true
  | "-type" | "-xtype" => do
      let letters := (← argument test).filter (· ≠ ',')
      match letters.find? fun c => !"bcdpfls".toList.contains c with
      | some c => throw ("Unknown argument to ".toList ++ test ++ ": ".toList ++ [c])
      | none => return .kind letters
  | "-size" => do
      let text ← argument test
      let (bound, count, unit) ← comparison test text
      match sizeUnit? unit with
      | some unit => return .size bound count unit
      | none => throw ("invalid -size type \x60".toList ++ unit ++ ['\''])
  | "-mtime" | "-mmin" | "-atime" | "-amin" | "-ctime" | "-cmin" => do
      let (bound, count, _) ← comparison test (← argument test)
      return .age bound count
  | "-newer" => do
      let _ ← argument test
      return .always false
  | "-user" | "-group" => return .always ((← argument test) = "root".toList)
  | "-perm" => return .mode (← argument test)
  | "-print" => return .print '\n'
  | "-print0" => return .print (Char.ofNat 0)
  | "-printf" => return .printFormat (← argument test)
  | "-ls" => return .list
  | "-exec" | "-execdir" => do
      let (words, once) ← commandWords test [] (← get).words
      if words.isEmpty then throw ("invalid argument \x60;' to \x60".toList ++ test ++ ['\''])
      if once then
        let number := (← get).collected
        modify fun r => { r with collected := number + 1 }
        return .callOnce number words
      else return .call words
  | "-delete" => do
      modify fun r => { r with walk := { r.walk with innerFirst := true } }
      return .delete
  | "-prune" => return .prune
  | "-quit" => return .quit
  | "-depth" => do
      modify fun r => { r with walk := { r.walk with innerFirst := true } }
      return .always true
  | "-mount" | "-xdev" | "-noleaf" | "-warn" | "-nowarn" => return .always true
  | "-follow" => do
      modify fun r => { r with walk := { r.walk with follows := true } }
      return .always true
  | "-maxdepth" => do
      let count ← levels test
      modify fun r => { r with walk := { r.walk with most := some count } }
      return .always true
  | "-mindepth" => do
      let count ← levels test
      modify fun r => { r with walk := { r.walk with least := count } }
      return .always true
  | _ =>
      if test.head? = some '-' then throw ("unknown predicate \x60".toList ++ test ++ ['\''])
      else throw ("paths must precede expression: \x60".toList ++ test ++ ['\''])

mutual

/-- Conditions with commas between them; at most `limit` steps. -/
def readList : Nat → Reading Condition
  | 0 => throw "too deep".toList
  | limit + 1 => do
      let first ← readEither limit
      match (← get).words with
      | [','] :: rest => do
          modify fun r => { r with words := rest }
          return .follows first (← readList limit)
      | _ => return first

/-- Conditions of which one has to hold. -/
def readEither : Nat → Reading Condition
  | 0 => throw "too deep".toList
  | limit + 1 => do
      let first ← readBoth limit
      match (← get).words with
      | word :: rest =>
          if word = "-o".toList ∨ word = "-or".toList then do
            modify fun r => { r with words := rest }
            return .either first (← readEither limit)
          else return first
      | [] => return first

/-- Conditions that all have to hold. -/
def readBoth : Nat → Reading Condition
  | 0 => throw "too deep".toList
  | limit + 1 => do
      let first ← readSingle limit
      match (← get).words with
      | [] => return first
      | word :: rest =>
          if word = "-a".toList ∨ word = "-and".toList then do
            modify fun r => { r with words := rest }
            return .both first (← readBoth limit)
          else if word = "-o".toList ∨ word = "-or".toList ∨ word = [','] ∨ word = [')'] then
            return first
          else return .both first (← readBoth limit)

/-- A test, a condition that must not hold, or one in parentheses. -/
def readSingle : Nat → Reading Condition
  | 0 => throw "too deep".toList
  | limit + 1 => do
      match (← get).words with
      | [] => throw "invalid expression".toList
      | word :: rest => do
          modify fun r => { r with words := rest }
          if word = ['!'] ∨ word = "-not".toList then return .not (← readSingle limit)
          else if word = ['('] then do
            let inside ← readList limit
            match (← get).words with
            | [')'] :: rest => do
                modify fun r => { r with words := rest }
                return inside
            | _ =>
                throw ("invalid expression; I was expecting to find a ')' " ++
                  "somewhere but did not see one.").toList
          else readTest word

end

/-- The condition that words spell, and what holds for the walk.  Without words
every entry is wanted. -/
def read (words : List NarrowText) : Except NarrowText (Condition × Walk) := do
  if words.isEmpty then return (.always true, {})
  let (condition, r) ← (readList (8 * words.length + 8)).run { words }
  if r.words.isEmpty then return (condition, r.walk)
  else throw "you have too many ')'".toList

/-! ## Walking -/

/-- An entry on the way: its path, how many levels it is below the place where
the walk begins, and the length of the path of that place. -/
structure Visit where
  path : NarrowText
  depth : Nat
  root : Nat
  entry : Entry

/-- What a walk keeps: an entry is not entered, nothing more is done, something
has failed, and the paths that are collected for commands. -/
structure Progress where
  pruned : Bool := false
  done : Bool := false
  failed : Bool := false
  collected : List (Nat × List NarrowText × List NarrowText) := []

/-- A step of a walk. -/
abbrev Step (α : Type) := StateT Progress (ExceptT Ending (StateM Process)) α

/-- A step of a tool on the way. -/
def lift {α : Type} (work : Work α) : Step α := fun progress => do
  return (← work, progress)

/-- Complain, which is a failure of the walk. -/
def complain (tool message : NarrowText) : Step Unit := do
  lift (Work.complain tool message)
  modify fun progress => { progress with failed := true }

/-- A number is as a bound wants it. -/
def Bound.admits (bound : Bound) (wanted found : Nat) : Bool :=
  match bound with
  | .exactly => found = wanted
  | .above => decide (wanted < found)
  | .below => decide (found < wanted)

/-- The letter for the kind of an entry. -/
def kindLetter : Entry → Char
  | .file _ _ => 'f'
  | .directory _ => 'd'
  | .link _ => 'l'

/-- The entry of a visit as it is listed. -/
def Visit.listed (visit : Visit) : Listed :=
  ⟨visit.path, visit.path, visit.entry⟩

/-- A text with each pair of braces replaced by a path. -/
def insertPath (path : NarrowText) : NarrowText → NarrowText
  | '\x7b' :: '\x7d' :: rest => path ++ insertPath path rest
  | c :: rest => c :: insertPath path rest
  | [] => []

/-- What a letter behind a percent sign stands for. -/
def Visit.directive (visit : Visit) (letter : Char) : NarrowText :=
  match letter with
  | 'p' => visit.path
  | 'f' => lastName visit.path
  | 'h' => if visit.path.contains '/' then beforeLastName visit.path else ['.']
  | 'P' => (visit.path.drop visit.root).dropWhile (· = '/')
  | 'H' => visit.path.take visit.root
  | 's' => Numeral.ofNat visit.listed.size
  | 'd' => Numeral.ofNat visit.depth
  | 'y' => [kindLetter visit.entry]
  | 'm' => visit.listed.modeDigits.toList
  | 'M' => visit.listed.modeLetters
  | 'n' => Numeral.ofNat visit.listed.nameCount
  | 'u' | 'g' => "root".toList
  | 'U' | 'G' => ['0']
  | 'l' =>
      match visit.entry with
      | .link target => NarrowText.ofString target
      | _ => []
  | '%' => ['%']
  | letter => ['%', letter]

/-- The text that a format gives for an entry; at most `limit` steps. -/
def Visit.format (visit : Visit) : Nat → NarrowText → NarrowText
  | 0, _ | _, [] => []
  | limit + 1, c :: rest =>
      match c, rest with
      | '%', letter :: more => visit.directive letter ++ visit.format limit more
      | '\\', rest =>
          let (meaning, size) := EscapeStyle.extendedFormat.read rest
          meaning ++ visit.format limit (rest.drop size)
      | c, rest => c :: visit.format limit rest

/-- The rights of an entry are as digits want them: all of them, at least those
behind a minus sign, or any of those behind a slash. -/
def Visit.hasMode (visit : Visit) (digits : NarrowText) : Bool :=
  let found := Numeral.ofDigits 8 visit.listed.modeDigits.toList
  match digits with
  | '-' :: rest => found &&& Numeral.ofDigits 8 rest = Numeral.ofDigits 8 rest
  | '/' :: rest => Numeral.ofDigits 8 rest = 0 || found &&& Numeral.ofDigits 8 rest ≠ 0
  | digits => found = Numeral.ofDigits 8 digits

/-- A pattern fits a text; letters may be told apart or not. -/
def patternFits (loose : Bool) (pattern text : NarrowText) : Bool :=
  if loose then Pattern.fits (pattern.map Char.toLower) (text.map Char.toLower)
  else Pattern.fits pattern text

/-- The last name of a path; that of the root is a slash. -/
def baseName (path : NarrowText) : NarrowText :=
  let name := lastName path
  if name.isEmpty then ['/'] else name

/-- Start a command for an entry, and tell whether it succeeds. -/
def callFor (start : Starter) (tool : NarrowText) (words : List NarrowText) : Step Bool := do
  match ← lift (Work.call start words) with
  | .ok ending => return decide (ending.status = 0)
  | .error fault => do
      complain tool (Shown.quotedWord (words.headD []) ++ ": ".toList ++ fault.description.toList)
      modify fun progress => { progress with failed := false }
      return false

/-- Take out an entry, and tell whether that is possible. -/
def deleteEntry (tool : NarrowText) (visit : Visit) : Step Bool := do
  let path := NarrowText.toString visit.path
  if visit.path = ['.'] then return true
  let fs := (← lift get).files
  match (if visit.entry.isDirectory then fs.removeDirectory path else fs.removeFile path) with
  | .ok fs => do
      lift (setFiles fs)
      return true
  | .error fault => do
      complain tool ("cannot delete ".toList ++ Shown.quotedWord visit.path ++ ": ".toList ++
        fault.description.toList)
      return false

/-- Whether a condition holds for an entry; what it asks to be done is done. -/
def Condition.holds (start : Starter) (tool : NarrowText) (visit : Visit) : Condition → Step Bool
  | .always holds => return holds
  | .name loose pattern => return patternFits loose pattern (baseName visit.path)
  | .path loose pattern => return patternFits loose pattern visit.path
  | .kind letters => return letters.contains (kindLetter visit.entry)
  | .empty =>
      match visit.entry with
      | .file octets _ => return octets.isEmpty
      | .directory entries => return entries.isEmpty
      | .link _ => return false
  | .size bound count unit =>
      return bound.admits count ((visit.listed.size + unit - 1) / unit)
  | .age bound count => return bound.admits count 0
  | .mode digits => return visit.hasMode digits
  | Condition.executable =>
      match visit.entry with
      | .file _ allowed => return allowed
      | _ => return true
  | .print ending => do
      lift (Work.print tool (visit.path ++ [ending]))
      return true
  | .printFormat format => do
      lift (Work.print tool (visit.format (format.length + 1) format))
      return true
  | .list => do
      let size := Numeral.ofNat visit.listed.size
      lift (Work.print tool (visit.listed.modeLetters ++ " root root ".toList ++ size ++
        ' ' :: visit.path ++ ['\n']))
      return true
  | .call words => callFor start tool (words.map (insertPath visit.path))
  | .callOnce number words => do
      modify fun progress =>
        let others := progress.collected.filter fun entry => entry.1 ≠ number
        let paths := ((progress.collected.find? fun entry => entry.1 = number).map
          fun entry => entry.2.2).getD []
        { progress with collected := others ++ [(number, words, visit.path :: paths)] }
      return true
  | .delete => deleteEntry tool visit
  | .prune => do
      modify fun progress => { progress with pruned := true }
      return true
  | .quit => do
      modify fun progress => { progress with done := true }
      return true
  | .not condition => return !(← condition.holds start tool visit)
  | .both first second => do
      if ← first.holds start tool visit then
        if (← get).done then return true else second.holds start tool visit
      else return false
  | .either first second => do
      if ← first.holds start tool visit then return true else second.holds start tool visit
  | .follows first second => do
      let _ ← first.holds start tool visit
      second.holds start tool visit

/-- Look at an entry, if it is deep enough. -/
def look (start : Starter) (tool : NarrowText) (walk : Walk) (condition : Condition)
    (visit : Visit) : Step Unit := do
  if walk.least ≤ visit.depth && !(← get).done then
    let _ ← condition.holds start tool visit

/-- Walk through an entry and what is in it; at most `limit` levels. -/
def walkThrough (start : Starter) (tool : NarrowText) (walk : Walk) (condition : Condition)
    (root depth : Nat) : Nat → NarrowText → Step Unit
  | 0, _ => return
  | limit + 1, path => do
      if (← get).done then return
      let fs := (← lift get).files
      let name := NarrowText.toString path
      let place : Except SystemFault (List String × Entry) :=
        match walk.follows, fs.find name with
        | true, .ok found => .ok found
        | _, _ => fs.findSelf name
      match place with
      | .error fault =>
          complain tool (Shown.quotedWord path ++ ": ".toList ++ fault.description.toList)
      | .ok (_, entry) => do
          let visit : Visit := ⟨path, depth, root, entry⟩
          modify fun progress => { progress with pruned := false }
          if !walk.innerFirst then look start tool walk condition visit
          let enters := !(← get).pruned && walk.most.all fun most => decide (depth < most)
          if enters then
            for (inner, _) in entry.entries do
              walkThrough start tool walk condition root (depth + 1) limit
                (inDirectory path (NarrowText.ofString inner))
          if walk.innerFirst then
            match (← lift get).files.findSelf name with
            | .ok (_, entry) => look start tool walk condition { visit with entry }
            | .error _ => pure ()

/-- Start the commands for which paths were collected. -/
def callCollected (start : Starter) (tool : NarrowText) : Step Unit := do
  for (_, words, paths) in (← get).collected do
    if !(← callFor start tool (words ++ paths.reverse)) then
      modify fun progress => { progress with failed := true }

end Seeking

open Seeking in
/-- Walk through directories, and do something with entries. -/
def find : Tool := fun start tool arguments => do
  let front := arguments.takeWhile fun word => ["-P", "-L", "-H"].any fun known =>
    known.toList = word
  let words := arguments.drop front.length
  let isPath (word : NarrowText) : Bool :=
    word.head? ≠ some '-' && word ≠ ['('] && word ≠ ['!'] && word ≠ [')'] && word ≠ [',']
  let paths := words.takeWhile isPath
  match Seeking.read (words.dropWhile isPath) with
  | .error problem => Work.fail tool 1 problem
  | .ok (condition, walk) => do
      let walk := { walk with follows := walk.follows || front.contains "-L".toList }
      let condition := if condition.acts then condition else .both condition (.print '\n')
      let all : Step Unit := do
        for path in (if paths.isEmpty then [['.']] else paths) do
          walkThrough start tool walk condition path.length 0 maxLevels path
        callCollected start tool
      let (_, progress) ← all.run {}
      return if progress.failed then 1 else 0

end Tools
end SyntaxCensus
