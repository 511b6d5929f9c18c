import SyntaxCensus.Host.Shell.Builtin.Variables
import SyntaxCensus.Host.Shell.Evaluation

/-!
# Reading lines

The commands that read lines of the input into variables: a line whose fields
go to one variable each, or lines that become the elements of a row.

Main definitions:

- `Builtin.readLine`: the line in front of a text.
- `Builtin.splitLine`: the fields of a line.
- `Builtin.read`: read a line into variables.
- `Builtin.readRow`: read lines into the elements of a row.
-/

namespace SyntaxCensus
namespace Shell
namespace Builtin

/-! ## Lines -/

/-- A line of the input, whose marked characters a backslash has protected; how
many characters are taken, and whether the line was ended. -/
structure InputLine where
  text : List Marked
  taken : Nat
  ended : Bool

/-- How lines are read: backslashes may have no meaning, a character ends a
line, and so does a number of characters. -/
structure LineManner where
  raw : Bool
  delimiter : Option Char := some '\n'
  limit : Option Nat := none

/-- Zeros are part of no text. -/
def LineManner.drops (manner : LineManner) (c : Char) : Bool :=
  c = zero && manner.delimiter ≠ some zero

/-- The line in front of a text, of which `left` characters are still wanted.
The characters found so far are in reverse. -/
def readLine (manner : LineManner) (left : Nat) (found : List Marked) (taken : Nat) :
    NarrowText → InputLine
  | [] => ⟨found.reverse, taken, false⟩
  | c :: rest =>
      match left with
      | 0 => ⟨found.reverse, taken, true⟩
      | fewer + 1 =>
          if manner.delimiter = some c then ⟨found.reverse, taken + 1, true⟩
          else if c = '\\' ∧ manner.raw = false then
            match rest with
            | [] => ⟨found.reverse, taken + 1, false⟩
            | next :: after =>
                if next = '\n' ∨ manner.drops next = true then
                  readLine manner left found (taken + 2) after
                else readLine manner fewer ((next, true) :: found) (taken + 2) after
          else if manner.drops c then readLine manner left found (taken + 1) rest
          else readLine manner fewer ((c, false) :: found) (taken + 1) rest

/-- The fields of a line for the variables that are `left`, the last of which
gets all that follows.  `held` is the next field in reverse; once it is the
last one, `kept` says how much of it stays if only separators follow. -/
def splitLine (separators : NarrowText) (left : Nat) (afterBlank : Bool) (kept : Option Nat)
    (held : NarrowText) : List Marked → List NarrowText
  | [] =>
      let text :=
        match kept with
        | some size => held.drop (held.length - size)
        | none => held
      if text.isEmpty then [] else [text.reverse]
  | (c, true) :: rest => splitLine separators left false kept (c :: held) rest
  | (c, false) :: rest =>
      let ends := separators.contains c
      let blank := ends && blankSeparators.contains c
      if left = 0 then
        let kept :=
          if blank then some (kept.getD held.length)
          else if ends && afterBlank then kept
          else none
        splitLine separators 0 (blank && afterBlank) kept (c :: held) rest
      else if afterBlank && ends then splitLine separators left blank kept [] rest
      else if !ends then splitLine separators left false kept (c :: held) rest
      else if blank && held.isEmpty then splitLine separators left false kept [] rest
      else if left = 1 then splitLine separators 0 blank (some held.length) (c :: held) rest
      else held.reverse :: splitLine separators (left - 1) blank kept [] rest

/-- Give fields to variables; those that are left over get no text. -/
def assignFields : List NarrowText → List NarrowText → Run Unit
  | [], _ => return
  | name :: names, fields => do
      checkPlace name
      Run.store name (fields.headD [])
      assignFields names fields.tail
where
  /-- The name of a variable or of an element. -/
  checkPlace (name : NarrowText) : Run Unit := do
    let s ← get
    checkName (if s.extended then (Run.splitIndex name).1 else name)

/-! ## Reading into variables -/

/-- The value of an option. -/
def option? (options : List (Char × NarrowText)) (letter : Char) : Option NarrowText :=
  (options.reverse.find? fun option => option.1 = letter).map Prod.snd

/-- An option is there. -/
def hasOption (options : List (Char × NarrowText)) (letter : Char) : Bool :=
  options.any fun option => option.1 = letter

/-- The number that is the value of an option. -/
def optionNumber? (options : List (Char × NarrowText)) (letter : Char) : Run (Option Nat) :=
  match option? options letter with
  | none => return none
  | some text =>
      match Numeral.natural? text with
      | some number => return some number
      | none => Run.fault (text ++ ": invalid number".toList)

/-- The descriptor that options name. -/
def sourceOf (options : List (Char × NarrowText)) : Run Nat := do
  return (← optionNumber? options 'u').getD 0

/-- How options say that a line is read. -/
def mannerOf (options : List (Char × NarrowText)) : Run LineManner := do
  let exactly ← optionNumber? options 'N'
  let most ← optionNumber? options 'n'
  let ends :=
    match option? options 'd' with
    | none => '\n'
    | some text => text.headD zero
  return {
    raw := hasOption options 'r'
    delimiter := if exactly.isSome then none else some ends
    limit := if exactly.isSome then exactly else most }

/-- Put a line into the variables that are named. -/
def keepLine (options : List (Char × NarrowText)) (names : List NarrowText)
    (text : List Marked) : Run Unit := do
  let s ← get
  let whole := text.map Prod.fst
  let separators := (s.value? "IFS".toList).getD blankSeparators
  match option? options 'a', names with
  | some row, _ => do
      checkName row
      Run.putElements row (.ofValues (splitLine separators (text.length + 2) false none [] text))
  | none, [] => Run.assign "REPLY".toList whole
  | none, names =>
      if hasOption options 'N' then assignFields names [whole]
      else assignFields names (splitLine separators names.length false none [] text)

/-- Read a line of the input into variables. -/
def read : Builtin := fun arguments => do
  let extended := (← get).extended
  let known := if extended then "ersa:d:i:n:N:p:t:u:" else "p:r"
  let (options, names) ← readOptions known arguments
  if !extended && names.isEmpty then Run.fault "arg count".toList
  let manner ← mannerOf options
  let source ← sourceOf options
  match (← get).left source with
  | .error _ => do
      keepLine options names []
      Run.finish 1
  | .ok text => do
      let line := readLine manner (manner.limit.getD (text.length + 1)) [] 0 text
      Run.onProcess fun process => process.skip source line.taken
      keepLine options names line.text
      let reached := decide (manner.limit = some line.text.length)
      Run.finish (if line.ended || reached then 0 else 1)

/-! ## Reading into rows -/

/-- The lines of a text with their ends. -/
def linesOf (delimiter : Char) (held : NarrowText) : NarrowText → List NarrowText
  | [] => if held.isEmpty then [] else [held.reverse]
  | c :: rest =>
      if c = delimiter then (c :: held).reverse :: linesOf delimiter [] rest
      else linesOf delimiter (c :: held) rest

/-- Read lines of the input into the elements of a row. -/
def readRow : Builtin := fun arguments => do
  let (options, names) ← readOptions "d:n:O:s:tu:C:c:" arguments
  let name := names.headD "MAPFILE".toList
  checkName name
  let source ← sourceOf options
  let skipped := (← optionNumber? options 's').getD 0
  let most := (← optionNumber? options 'n').getD 0
  let origin ← optionNumber? options 'O'
  let delimiter := ((option? options 'd').map fun text => text.headD zero).getD '\n'
  match (← get).left source with
  | .error _ => Run.finish 1
  | .ok text => do
      let lines := linesOf delimiter [] text
      let wanted := (lines.drop skipped).take (if most = 0 then lines.length else most)
      let passed := lines.take (skipped + wanted.length)
      Run.onProcess fun process =>
        process.skip source (passed.foldl (fun size line => size + line.length) 0)
      let values := wanted.map fun line =>
        (if hasOption options 't' && line.getLast? = some delimiter then line.dropLast else line)
          |>.filter (· ≠ zero)
      match origin with
      | none => Run.putElements name (.ofValues values)
      | some first => do
          let elements ← Run.elementsIn name
          Run.putElements name (values.zipIdx.foldl
            (fun elements (value, number) => elements.put (Numeral.ofNat (first + number)) value)
            elements)
      Run.finish 0

end Builtin
end Shell
end SyntaxCensus
