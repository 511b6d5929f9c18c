import SyntaxCensus.Host.Tools.Basic
import SyntaxCensus.Host.Tools.Records.Matching
import SyntaxCensus.Host.Tools.Records.Table

/-!
# Running programs on records: what is kept

The present record is kept as a whole and in its fields; each is made from the
other when it is asked for.  Printed text is held back until a program is
started or the run ends.

Main definitions:

- `Records.Machine`: what a program works on.
- `Records.Act`: a step of running a program.
- `Act.recordFrom`: the next record of a text.
-/

namespace SyntaxCensus
namespace Records

/-- What a variable is bound to.  One that was never used may become a table
that is already known elsewhere. -/
inductive Slot where
  | free
  | pending (table : Nat)
  | cell (value : Cell)
  | table (number : Nat)
  deriving Inhabited

/-- Text that is read record by record.  If it is live, more comes from the
input of the process. -/
structure RecordSource where
  rest : NarrowText
  live : Bool := false

/-- Where text is printed besides the output: a file with its stream, or the
input of a command.  What was printed is kept in pieces, the last one first. -/
structure Target where
  direction : Direction
  name : NarrowText
  stream : Nat := 0
  pieces : List NarrowText := []

/-- A file or the output of a command that records are read from. -/
structure OpenSource where
  name : NarrowText
  status : Option Nat
  source : RecordSource

/-- What a program works on. -/
structure Machine where
  process : Process
  slots : Array Slot
  frame : Array Slot := #[]
  tables : Array Table := #[]
  record : Cell := .missing
  fields : Array Cell := #[]
  isSplit : Bool := true
  isJoined : Bool := true
  printed : List NarrowText := []
  targets : List Target := []
  sources : List OpenSource := []
  main : Option RecordSource := none
  nextArgument : Nat := 1
  usedAny : Bool := false
  inside : Array Bool
  compiled : List (NarrowText × Expression) := []
  seed : Nat := 0

/-- How a statement ends more than itself. -/
inductive Leap where
  | nextRecord
  | nextFile
  | leaveLoop
  | continueLoop
  | leaveFunction (value : Cell)
  | exit (status : Option Nat)
  | fault (message : NarrowText) (tells : Bool)

/-- What does not change during a run. -/
structure RunSetting where
  start : Starter
  tool : NarrowText
  program : Program

/-- A step of running a program. -/
abbrev Act (α : Type) := ExceptT Leap (StateM Machine) α

namespace Act

/-- End with a fault of the program. -/
def fail {α : Type} (message : String) : Act α :=
  throw (.fault message.toList true)

/-! ## Variables -/

/-- What a place is bound to. -/
def slot (place : Place) : Act Slot := do
  let m ← get
  match place with
  | .shared number => return (m.slots[number]?).getD .free
  | .own number => return (m.frame[number]?).getD .free

/-- Bind a place. -/
def setSlot (place : Place) (slot : Slot) : Act Unit :=
  modify fun m =>
    match place with
    | .shared number => { m with slots := m.slots.setIfInBounds number slot }
    | .own number => { m with frame := m.frame.setIfInBounds number slot }

/-- The value of a variable with a meaning of its own. -/
def special (special : Special) : Act Cell := do
  match (← get).slots[special.number]? with
  | some (.cell value) => return value
  | _ => return .missing

/-- Give a value to a variable with a meaning of its own. -/
def setSpecial (special : Special) (value : Cell) : Act Unit :=
  setSlot (.shared special.number) (.cell value)

/-- The format in which numbers become texts. -/
def conversion : Act NarrowText :=
  return (← special .conversion).toText "%.6g".toList

/-- The text that a value counts as. -/
def textOf (cell : Cell) : Act NarrowText := do
  match cell with
  | .number value =>
      match wholeNumber? value with
      | some whole => return Numeral.ofInt whole
      | none => return numberText (← conversion) value
  | other => return other.toText []

/-- The text of a variable with a meaning of its own. -/
def specialText (name : Special) : Act NarrowText := do
  textOf (← special name)

/-- The table that a place is bound to. -/
def tableOf (place : Place) : Act Nat := do
  match ← slot place with
  | .table number => return number
  | .pending number => do
      setSlot place (.table number)
      return number
  | .cell _ => fail "a value is used as a table"
  | .free => do
      let m ← get
      let number := m.tables.size
      set { m with tables := m.tables.push {} }
      setSlot place (.table number)
      return number

/-- Do something with a table. -/
def onTable {α : Type} (number : Nat) (change : Table → α × Table) : Act α := do
  let m ← get
  let (result, table) := change ((m.tables[number]?).getD {})
  set { m with tables := m.tables.setIfInBounds number table }
  return result

/-! ## Expressions -/

/-- How many expressions are remembered. -/
def maxCompiled : Nat := 100

/-- The expression that a text spells. -/
def compile (text : NarrowText) : Act Expression := do
  let m ← get
  match m.compiled.find? fun entry => entry.1 = text with
  | some (_, expression) => return expression
  | none =>
      match expression? text with
      | .error _ =>
          throw
            (.fault ("regular expression compile failed (bad expression)\n".toList ++ text) false)
      | .ok expression => do
          set { m with compiled := ((text, expression) :: m.compiled).take maxCompiled }
          return expression

/-! ## Fields -/

/-- The parts of a text between blanks. -/
def words (text : NarrowText) : List NarrowText :=
  let (found, last) := text.foldl
    (fun (found, current) c =>
      if isSpace c then
        if current.isEmpty then (found, current) else (current.reverse :: found, [])
      else (found, c :: current))
    (([] : List NarrowText), ([] : NarrowText))
  (if last.isEmpty then found else last.reverse :: found).reverse

/-- The parts of a text between the matches of a mark: blanks, one character,
or an expression.  An empty mark stands between any two characters. -/
def partsBetween (mark text : NarrowText) : Act (List NarrowText) := do
  match mark with
  | [] => return text.map fun c => [c]
  | [' '] => return words text
  | [c] => return if text.isEmpty then [] else Text.stretches c text
  | _ => return parts (← compile mark) text

/-- Split the record into its fields. -/
def splitRecord : Act Unit := do
  if !(← get).isSplit then
    let text ← textOf (← get).record
    let found ← partsBetween (← specialText .fieldMark) text
    modify fun m => { m with fields := (found.map Cell.input).toArray, isSplit := true }

/-- Join the fields to the record. -/
def joinRecord : Act Unit := do
  if !(← get).isJoined then
    let between ← specialText .fieldJoin
    let texts ← (← get).fields.toList.mapM textOf
    modify fun m => { m with record := .input (between.intercalate texts), isJoined := true }

/-- Put another record in the place of the present one. -/
def setRecord (record : Cell) : Act Unit :=
  modify fun m => { m with record, isSplit := false, isJoined := true }

/-- The greatest number of a field. -/
def maxField : Nat := 32767

/-- A field; number zero is the whole record. -/
def field (number : Nat) : Act Cell := do
  if number = 0 then
    joinRecord
    return (← get).record
  else
    splitRecord
    return ((← get).fields[number - 1]?).getD .missing

/-- Change the number of fields. -/
def setFieldCount (count : Nat) : Act Unit := do
  splitRecord
  modify fun m =>
    { m with
      fields :=
        m.fields.extract 0 count ++ Array.replicate (count - m.fields.size) (Cell.text [])
      isJoined := false }

/-- Give a value to a field. -/
def setField (number : Nat) (value : Cell) : Act Unit := do
  if number = 0 then setRecord value
  else
    splitRecord
    if (← get).fields.size < number then setFieldCount number
    modify fun m =>
      { m with fields := m.fields.setIfInBounds (number - 1) value, isJoined := false }

/-- The number of a field that a value stands for. -/
def fieldNumber (value : Cell) : Act Nat := do
  let number := value.toNumber.toInt
  if number < 0 then
    throw (.fault ("negative field index $".toList ++ Numeral.ofInt number) true)
  else if maxField < number.toNat then
    throw (.fault (s!"maximum number of fields({maxField}) exceeded".toList) true)
  else return number.toNat

/-- The value of a variable. -/
def value (place : Place) : Act Cell := do
  if place = .shared Special.fieldCount.number then
    splitRecord
    return .ofNat (← get).fields.size
  else
    match ← slot place with
    | .cell value => return value
    | .table _ => fail "a table is used as a value"
    | _ => return .missing

/-- Give a value to a variable. -/
def assign (place : Place) (value : Cell) : Act Unit := do
  if place = .shared Special.fieldCount.number then setFieldCount (← fieldNumber value)
  else
    if place = .shared Special.fieldMark.number then splitRecord
    match ← slot place with
    | .table _ => fail "a table is used as a value"
    | _ => setSlot place (.cell value)

/-! ## Printing -/

/-- Write what was printed on the output. -/
def flushOutput : Act Unit :=
  modify fun m =>
    { m with process := m.process.print m.printed.reverse.flatten, printed := [] }

/-- Write what was printed to files. -/
def flushTargets : Act Unit := do
  for target in (← get).targets do
    if target.direction ≠ .command then
      modify fun m =>
        let stream := (m.process.streams[target.stream]?).getD default
        { m with
          process := (m.process.writeTo target.stream stream target.pieces.reverse.flatten).2 }
  modify fun m =>
    { m with
      targets := m.targets.map fun target =>
        if target.direction = .command then target else { target with pieces := [] } }

/-- Write everything that was printed. -/
def flush : Act Unit := do
  flushOutput
  flushTargets

/-- Run a command of a shell with changed descriptors, and tell its status.
What was printed so far is still held back. -/
def shellAhead (setting : RunSetting) (prepare : Process → Process) (command : NarrowText) :
    Act Nat := do
  let m ← get
  let words := ["sh".toList, "-c".toList, command]
  match setting.start "/bin/sh".toList words (prepare m.process.child) with
  | .error _ => return 127
  | .ok (ending, after) => do
      set { m with process := m.process.rejoin after }
      match ending with
      | .exited status => return status
      | .killed signal _ => return 256 + signal

/-- Run a command of a shell behind everything that was printed, and tell its
status. -/
def shell (setting : RunSetting) (prepare : Process → Process) (command : NarrowText) :
    Act Nat := do
  flush
  shellAhead setting prepare command

/-- Run a command for its output. -/
def outputOf (setting : RunSetting) (command : NarrowText) : Act (NarrowText × Nat) := do
  let (number, process) := (← get).process.add (.sink [])
  modify fun m => { m with process }
  let status ← shell setting (fun s => s.bind 1 number) command
  return ((← get).process.writtenTo number, status)

/-- Finish printing to a file or a command, and tell the status. -/
def closeTarget (setting : RunSetting) (target : Target) : Act Nat := do
  let text := target.pieces.reverse.flatten
  match target.direction with
  | .command => shellAhead setting (fun s => s.bindTo 0 (Stream.ofText text)) target.name
  | _ => do
      modify fun m =>
        let stream := (m.process.streams[target.stream]?).getD default
        { m with process := (m.process.writeTo target.stream stream text).2 }
      return 0

/-- Finish printing everywhere, first where text was printed last. -/
def closeTargets (setting : RunSetting) : Act Unit := do
  for target in (← get).targets do
    modify fun m => { m with targets := m.targets.drop 1 }
    let _ ← closeTarget setting target
  flushOutput

/-- The place where text is printed for a name, which is opened if it is
new. -/
def openTarget (direction : Direction) (name : NarrowText) : Act Target := do
  let m ← get
  match m.targets.find? fun target => target.name = name with
  | some target => return target
  | none =>
      match direction with
      | .command => do
          flush
          return { direction, name }
      | _ =>
          let mode : Process.OpeningMode := if direction = .extend then .extend else .replace
          match m.process.opened mode name with
          | .error fault =>
              throw (.fault ("cannot open \"".toList ++ name ++ "\" for output (".toList ++
                fault.description.toList ++ [')']) false)
          | .ok (stream, process) => do
              set { m with process }
              return { direction, name, stream }

/-- Print text on the output. -/
def print (text : NarrowText) : Act Unit :=
  modify fun m => { m with printed := text :: m.printed }

/-- Print text to a file or a command. -/
def printTo (direction : Direction) (name text : NarrowText) : Act Unit := do
  if direction ≠ .command ∧ (name = "/dev/stdout".toList ∨ name = ['-']) then print text
  else if direction ≠ .command ∧ name = "/dev/stderr".toList then
    modify fun m => { m with process := m.process.write 2 text }
  else
    let target ← openTarget direction name
    modify fun m =>
      { m with
        targets :=
          { target with pieces := text :: target.pieces } ::
            m.targets.filter fun other => other.name ≠ name }

/-- Close a file or a command, and tell its status. -/
def close (setting : RunSetting) (name : NarrowText) : Act Int := do
  let m ← get
  let source := m.sources.find? fun source => source.name = name
  let target := m.targets.find? fun target => target.name = name
  set { m with
    sources := m.sources.filter fun other => other.name ≠ name
    targets := m.targets.filter fun other => other.name ≠ name }
  match target, source with
  | some target, _ => return (← closeTarget setting target)
  | none, some source => return source.status.getD 0
  | none, none => return -1

/-! ## Records -/

/-- How much of the input is taken at a time. -/
def blockSize : Nat := 4096

/-- Take more of the input of the process, if there is any. -/
def refill (source : RecordSource) : Act RecordSource := do
  let m ← get
  match m.process.left 0 with
  | .error _ => return { source with live := false }
  | .ok left => do
      let block := left.take blockSize
      if block.isEmpty then return { source with live := false }
      set { m with process := m.process.skip 0 block.length }
      return { source with rest := source.rest ++ block }

/-- Take more of the input until it holds a character; at most `limit`
times. -/
def refillTo (wanted : Char) (source : RecordSource) : Nat → Act RecordSource
  | 0 => return source
  | limit + 1 => do
      if source.live && !source.rest.contains wanted then
        refillTo wanted (← refill source) limit
      else return source

/-- Take all that is left of the input; at most `limit` blocks. -/
def refillAll (source : RecordSource) : Nat → Act RecordSource
  | 0 => return source
  | limit + 1 => do
      if source.live then refillAll (← refill source) limit else return source

/-- How often the input can be taken from. -/
def refills : Act Nat := do
  match (← get).process.left 0 with
  | .ok left => return left.length + 2
  | .error _ => return 2

/-- The text up to a character, and what follows it. -/
def cutAt (mark : Char) (text : NarrowText) : NarrowText × NarrowText :=
  (text.takeWhile (· ≠ mark), (text.dropWhile (· ≠ mark)).tail)

/-- The text up to an empty line, and what follows it and further ones. -/
def cutAtEmptyLine (found : NarrowText) : NarrowText → NarrowText × NarrowText
  | [] => (found.reverse, [])
  | ['\n'] => (found.reverse, [])
  | '\n' :: '\n' :: rest => (found.reverse, rest.dropWhile (· = '\n'))
  | c :: rest => cutAtEmptyLine (c :: found) rest

/-- The next record of a text, and what is left of it. -/
def recordFrom (source : RecordSource) : Act (Option NarrowText × RecordSource) := do
  let cut (source : RecordSource) (text : NarrowText × NarrowText) :
      Option NarrowText × RecordSource :=
    if source.rest.isEmpty then (none, source) else (some text.1, { source with rest := text.2 })
  match ← specialText .recordMark with
  | [mark] => do
      let source ← refillTo mark source (← refills)
      return cut source (cutAt mark source.rest)
  | [] => do
      let source ← refillAll source (← refills)
      let source := { source with rest := source.rest.dropWhile (· = '\n') }
      return cut source (cutAtEmptyLine [] source.rest)
  | mark => do
      let source ← refillAll source (← refills)
      let expression ← compile mark
      let text := source.rest.toArray
      match expression.find? text 0 with
      | some found =>
          if found.extent.first < found.extent.last then
            return cut source (slice text 0 found.extent.first, source.rest.drop found.extent.last)
          else return cut source (source.rest, [])
      | none => return cut source (source.rest, [])

/-- Count a record. -/
def countUp (name : Special) : Act Unit := do
  setSpecial name (.number ((← special name).toNumber.add (FloatingNumber.ofInt 1)))

/-- The name and the text of an argument that gives a value to a variable. -/
def assignment? (argument : NarrowText) : Option (NarrowText × NarrowText) :=
  let name := argument.takeWhile (· ≠ '=')
  match argument.dropWhile (· ≠ '=') with
  | _ :: text =>
      if name.head?.any (fun c => c.isAlpha || c = '_') &&
          name.all (fun c => c.isAlphanum || c = '_') then
        some (name, text)
      else none
  | [] => none

/-- Make a text the source of records. -/
def beginSource (name : NarrowText) (source : RecordSource) : Act Unit := do
  modify fun m => { m with main := some source, usedAny := true }
  setSpecial .fileName (.text name)
  setSpecial .numberInFile (.ofNat 0)

/-- Go on to the next argument that is a file; false if there is none.  The
`assign` gives values to variables; at most `limit` arguments. -/
def advance (assignNamed : NarrowText → NarrowText → Act Unit) : Nat → Act Bool
  | 0 => return false
  | limit + 1 => do
      let m ← get
      let count := (← special .argumentCount).toNumber.toInt
      if count ≤ m.nextArgument then
        if m.usedAny then return false
        else
          beginSource ['-'] { rest := [], live := true }
          return true
      else
        set { m with nextArgument := m.nextArgument + 1 }
        let table ← tableOf (.shared Special.arguments.number)
        let cell ← onTable table fun table =>
          match table.locate false (.number m.nextArgument) with
          | (some place, table) => (table.valueAt place, table)
          | (none, table) => (Cell.missing, table)
        let argument ← textOf cell
        match argument, assignment? argument with
        | [], _ => advance assignNamed limit
        | _, some (name, text) => do
            assignNamed name text
            advance assignNamed limit
        | ['-'], none => do
            beginSource ['-'] { rest := [], live := true }
            return true
        | name, none =>
            match (← get).process.readFile name with
            | .ok text => do
                beginSource name { rest := text }
                return true
            | .error fault =>
                throw (.fault ("cannot open \"".toList ++ name ++ "\" (".toList ++
                  fault.description.toList ++ [')']) false)

/-- The next record of the arguments or of the input; at most `limit` of
them are looked at. -/
def nextMain (assignNamed : NarrowText → NarrowText → Act Unit) : Nat → Act (Option NarrowText)
  | 0 => return none
  | limit + 1 => do
      match (← get).main with
      | some source => do
          match ← recordFrom source with
          | (some text, source) => do
              modify fun m => { m with main := some source }
              countUp .recordNumber
              countUp .numberInFile
              return some text
          | (none, _) => do
              modify fun m => { m with main := none }
              nextMain assignNamed limit
      | none => do
          if ← advance assignNamed ((← get).nextArgument + 100000) then
            nextMain assignNamed limit
          else return none

/-- The next record of a file or of a command that is known by its name; none
at its end, and a fault if it cannot be opened. -/
def nextOf (setting : RunSetting) (isCommand : Bool) (name : NarrowText) :
    Act (Except Unit (Option NarrowText)) := do
  let m ← get
  let opened : Option OpenSource ←
    match m.sources.find? fun source => source.name = name with
    | some source => pure (some source)
    | none =>
        if isCommand then do
          let (text, status) ← outputOf setting name
          pure (some ⟨name, some status, { rest := text }⟩)
        else if name = ['-'] ∨ name = "/dev/stdin".toList then
          pure (some ⟨name, none, { rest := [], live := true }⟩)
        else
          match m.process.readFile name with
          | .ok text => pure (some ⟨name, none, { rest := text }⟩)
          | .error _ => pure none
  match opened with
  | none => return .error ()
  | some found => do
      let (record, source) ← recordFrom found.source
      modify fun m =>
        { m with
          sources := { found with source } :: m.sources.filter fun other => other.name ≠ name }
      return .ok record

end Act
end Records
end SyntaxCensus
