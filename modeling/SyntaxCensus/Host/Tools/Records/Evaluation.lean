import SyntaxCensus.Host.Decimal.Functions
import SyntaxCensus.Host.Tools.Records.Machine

/-!
# Running programs on records

Terms are evaluated and statements are done one after the other.  How deep they
may be nested is limited, and so is how often a loop is gone through.

Main definitions:

- `Records.evaluate`: the value of a term.
- `Records.execute`: do a statement.
- `Records.runProgram`: a whole run.
-/

namespace SyntaxCensus
namespace Records

open Act

/-- The result of an operation on two numbers. -/
def Operation.apply (operation : Operation) (first second : FloatingNumber) : FloatingNumber :=
  match operation with
  | .add => first.add second
  | .subtract => first.sub second
  | .multiply => first.mul second
  | .divide => first.div second
  | .remainder => first.mod second
  | .power => first.pow second

/-- How often a loop is gone through at most. -/
def maxRounds : Nat := 4000000000

/-- Do something again as long as it says so; at most `limit` times. -/
def iterate (step : Act Bool) : Nat → Act Unit
  | 0 => fun m => (.ok (), m)
  | limit + 1 => fun m =>
      match (step.run m : Except Leap Bool × Machine) with
      | (.ok true, m) => iterate step limit m
      | (.ok false, m) => (.ok (), m)
      | (.error leap, m) => (.error leap, m)

/-- Something is done again after it was interrupted, if it was by an order to
go on with the loop; the result says whether the loop goes on. -/
def loopBody (body : Act Unit) : Act Bool := fun m =>
  match (body.run m : Except Leap Unit × Machine) with
  | (.ok (), m) => (.ok true, m)
  | (.error .continueLoop, m) => (.ok true, m)
  | (.error .leaveLoop, m) => (.ok false, m)
  | (.error leap, m) => (.error leap, m)

/-- Where a value can be put. -/
inductive Goal where
  | variable (place : Place)
  | field (number : Nat)
  | entry (table : Nat) (key : Key)

/-- The value that stands at a goal. -/
def Goal.load : Goal → Act Cell
  | .variable place => value place
  | .field number => Act.field number
  | .entry table key =>
      onTable table fun table =>
        match table.locate true key with
        | (some place, table) => (table.valueAt place, table)
        | (none, table) => (.missing, table)

/-- Put a value at a goal. -/
def Goal.store (goal : Goal) (value : Cell) : Act Unit :=
  match goal with
  | .variable place => assign place value
  | .field number => setField number value
  | .entry table key => onTable table fun table => ((), table.put key value)

/-- The greatest number that is a key as a number. -/
def maxKey : Int := 2147483647

/-- The key that values stand for. -/
def keyOf (cells : List Cell) : Act Key := do
  match cells with
  | [.number value] =>
      match value.toInt? with
      | some whole =>
          if -maxKey ≤ whole ∧ whole ≤ maxKey then return .number whole
          else return .text (← textOf (.number value))
      | none => return .text (← textOf (.number value))
  | [cell] => return .text (← textOf cell)
  | several => do
      let between ← specialText .keyJoin
      return .text (between.intercalate (← several.mapM textOf))

/-- A part of a text from a number on with a length. -/
def substring (text : NarrowText) (first : Int) (length : Option Int) : NarrowText :=
  let length :=
    match length with
    | none => (text.length : Int)
    | some length => length - min first 0
  (text.drop (first - 1).toNat).take length.toNat

/-- The number of the first character of a text in another one; zero if it does
not occur. -/
def indexOf (wanted : NarrowText) (place : Nat) : NarrowText → Nat
  | [] => if wanted.isEmpty then place else 0
  | c :: rest => if wanted.isPrefixOf (c :: rest) then place else indexOf wanted (place + 1) rest

/-- The next number of a row that looks like chance. -/
def nextSeed (seed : Nat) : Nat :=
  (seed * 1103515245 + 12345) % 2147483648

/-- The texts of values that are printed; numbers are written in the format for
output. -/
def printedText (cell : Cell) : Act NarrowText := do
  match cell with
  | .number value =>
      return numberText ((← special .outputConversion).toText "%.6g".toList) value
  | other => textOf other

/-- The complaint about values that cannot be written in a format, which
`name` asks for. -/
def formatComplaint (name : String) (format : NarrowText) (fault : FormatFault) : NarrowText :=
  let problem :=
    match fault with
    | .tooFew => "not enough arguments passed to "
    | .badLetter => "improper conversion in "
  problem.toList ++ name.toList ++ "(\"".toList ++ format ++ "\")".toList

/-- Values written in a format, and what is to be said about a fault. -/
def formatCells (name : String) (format : NarrowText) (cells : List Cell) :
    Act (NarrowText × Option NarrowText) := do
  let convert ← conversion
  let (text, fault) := formatted (Cell.toText convert) format cells
  return (text, fault.map (formatComplaint name format))

/-- End with a complaint, if there is one. -/
def failWith : Option NarrowText → Act Unit
  | none => return
  | some message => throw (.fault message true)

/-- The number of a variable with a name. -/
def variableNumber? (program : Program) (name : NarrowText) : Option Nat :=
  program.names.toList.idxOf? name

/-- Give a value to a variable by its name. -/
def assignNamed (program : Program) (name text : NarrowText) : Act Unit := do
  match variableNumber? program name with
  | none => return
  | some number => assign (.shared number) (.input (unescapeArgument text.length text))
where
  /-- The text of an argument with its escapes replaced. -/
  unescapeArgument : Nat → NarrowText → NarrowText
    | 0, text => text
    | _, [] => []
    | limit + 1, '\\' :: c :: rest =>
        if c = '"' ∨ c = '/' then c :: unescapeArgument limit rest
        else
          match EscapeStyle.letter? c with
          | some meant => meant :: unescapeArgument limit rest
          | none => '\\' :: c :: unescapeArgument limit rest
    | limit + 1, c :: rest => c :: unescapeArgument limit rest

/-- How many records are looked for at a time. -/
def maxSources : Nat := 1000000

/-- The next record of the arguments. -/
def nextRecord (setting : RunSetting) : Act (Option NarrowText) :=
  nextMain (assignNamed setting.program) maxSources

mutual

/-- The value of a term; at most `depth` terms and statements are nested. -/
def evaluate (setting : RunSetting) : Nat → Term → Act Cell
  | 0, _ => fail "evaluation stack overflow"
  | depth + 1, term => do
      let eval := evaluate setting depth
      let whole (term : Term) : Act FloatingNumber := return (← eval term).toNumber
      match term with
      | .number value => return .number value
      | .text written => return .text written
      | .pattern expression => do
          let text ← textOf (← Act.field 0)
          return .ofBool (expression.occursIn text)
      | .variable place => value place
      | .field (.number index) => do Act.field (← fieldNumber (.number index))
      | .field index => do Act.field (← fieldNumber (← eval index))
      | .element table keys => do
          let goal ← locate setting depth (.element table keys)
          goal.load
      | .assignment target value => do
          let goal ← locate setting depth target
          let found ← eval value
          goal.store found
          return found
      | .update operation target value => do
          let goal ← locate setting depth target
          let second ← whole value
          let first := (← goal.load).toNumber
          let result := Cell.number (operation.apply first second)
          goal.store result
          return result
      | .step up before target => do
          let goal ← locate setting depth target
          let old := (← goal.load).toNumber
          let new := old.add (FloatingNumber.ofInt (if up then 1 else -1))
          goal.store (.number new)
          return .number (if before then new else old)
      | .opposite value => return .number (← whole value).neg
      | .asNumber value => return .number (← whole value)
      | .calculation operation first second => do
          let a ← whole first
          let b ← whole second
          return .number (operation.apply a b)
      | .comparison relation first second => do
          let a ← eval first
          let b ← eval second
          return .ofBool (a.relates (← conversion) relation b)
      | .joined first second => do
          let a ← textOf (← eval first)
          let b ← textOf (← eval second)
          return .text (a ++ b)
      | .negation value => return .ofBool !(← eval value).isTrue
      | .both first second => do
          if (← eval first).isTrue then return .ofBool (← eval second).isTrue
          else return .ofBool false
      | .either first second => do
          if (← eval first).isTrue then return .ofBool true
          else return .ofBool (← eval second).isTrue
      | .choice condition accepted refused => do
          if (← eval condition).isTrue then eval accepted else eval refused
      | .fits negated subject pattern => do
          let text ← textOf (← eval subject)
          let expression ← expressionOf setting depth pattern
          return .ofBool (expression.occursIn text != negated)
      | .isIn keys table => do
          let key ← keyOf (← keys.mapM eval)
          let number ← tableOf table
          return .ofBool (← onTable number fun table => table.contains key)
      | .call number arguments => callFunction setting depth number arguments
      | .builtin found arguments => callBuiltin setting depth found arguments
      | .read origin name target => readRecord setting depth origin name target

/-- Where a value of a term can be put. -/
def locate (setting : RunSetting) : Nat → Term → Act Goal
  | 0, _ => fail "evaluation stack overflow"
  | depth + 1, term => do
      match term with
      | .variable place => return .variable place
      | .field index => do
          return .field (← fieldNumber (← evaluate setting depth index))
      | .element table keys => do
          let key ← keyOf (← keys.mapM (evaluate setting depth))
          let number ← tableOf table
          let _ ← onTable number fun table => table.locate true key
          return .entry number key
      | _ => fail "assignment to a value"

/-- The expression that a term stands for. -/
def expressionOf (setting : RunSetting) : Nat → Term → Act Expression
  | 0, _ => fail "evaluation stack overflow"
  | depth + 1, term => do
      match term with
      | .pattern expression => return expression
      | other => do compile (← textOf (← evaluate setting depth other))

/-- Call a function.  A variable that was never used is handed over as a table
that the function may fill. -/
def callFunction (setting : RunSetting) : Nat → Nat → List Term → Act Cell
  | 0, _, _ => fail "function call nesting too deep"
  | depth + 1, number, arguments => do
      let slots ← arguments.mapM fun argument => do
        match argument with
        | .variable place => do
            match ← slot place with
            | .free => do
                if place = .shared Special.fieldCount.number then
                  return Slot.cell (← value place)
                let m ← get
                let table := m.tables.size
                set { m with tables := m.tables.push {} }
                setSlot place (.pending table)
                return Slot.pending table
            | .cell _ => return Slot.cell (← value place)
            | other => return other
        | other => return Slot.cell (← evaluate setting depth other)
      match setting.program.functions[number]? with
      | none => return .missing
      | some function => do
          let before := (← get).frame
          let free := List.replicate (function.parameters - slots.length) Slot.free
          modify fun m => { m with frame := (slots ++ free).toArray }
          let leave (result : Cell) : Act Cell := do
            modify fun m => { m with frame := before }
            return result
          try
            execute setting depth function.body
            leave .missing
          catch leap =>
            match leap with
            | .leaveFunction result => leave result
            | other => throw other

/-- Call a function that need not be defined. -/
def callBuiltin (setting : RunSetting) : Nat → Builtin → List Term → Act Cell
  | 0, _, _ => fail "evaluation stack overflow"
  | depth + 1, builtin, arguments => do
      let eval := evaluate setting depth
      let text (term : Term) : Act NarrowText := do textOf (← eval term)
      let number (term : Term) : Act FloatingNumber := return (← eval term).toNumber
      let result (value : FloatingNumber) : Act Cell := return .number value
      let replace (everywhere : Bool) (pattern put target : Term) : Act Cell := do
        let expression ← expressionOf setting depth pattern
        let put ← text put
        let goal? ← if target.isTarget then
            pure (some (← locate setting depth target)) else pure none
        let subject ← match goal? with
          | some goal => textOf (← goal.load)
          | none => text target
        let (changed, count) := replaced everywhere expression put subject
        if 0 < count then
          match goal? with
          | some goal => goal.store (.text changed)
          | none => pure ()
        return .ofNat count
      match builtin, arguments with
      | .length, [] => return .ofNat (← textOf (← Act.field 0)).length
      | .length, [.variable place] => do
          match ← slot place with
          | .table number => return .ofNat (← onTable number fun table => (table.size, table))
          | .pending number => return .ofNat (← onTable number fun table => (table.size, table))
          | _ => return .ofNat (← textOf (← value place)).length
      | .length, term :: _ => return .ofNat (← text term).length
      | .index, [first, second] => do
          let whole ← text first
          let wanted ← text second
          return .ofNat (indexOf wanted 1 whole)
      | .substring, [first, second] => do
          let whole ← text first
          return .text (substring whole (← number second).toInt none)
      | .substring, [first, second, third] => do
          let whole ← text first
          let begin ← number second
          let length ← number third
          return .text (substring whole begin.toInt (some length.toInt))
      | .split, first :: .variable place :: rest => do
          let whole ← text first
          let parts ←
            match rest with
            | .pattern expression :: _ => pure (Records.parts expression whole)
            | mark :: _ => do partsBetween (← text mark) whole
            | [] => do partsBetween (← specialText .fieldMark) whole
          let table ← tableOf place
          onTable table fun _ => ((), Table.ofParts parts)
          return .ofNat parts.length
      | .replaceFirst, [pattern, put] => replace false pattern put (.field zeroTerm)
      | .replaceFirst, [pattern, put, target] => replace false pattern put target
      | .replaceAll, [pattern, put] => replace true pattern put (.field zeroTerm)
      | .replaceAll, [pattern, put, target] => replace true pattern put target
      | .search, [subject, pattern] => do
          let whole ← text subject
          let expression ← expressionOf setting depth pattern
          let (start, length) : Int × Int :=
            match expression.find? whole.toArray 0 with
            | some found => (found.extent.first + 1, found.extent.last - found.extent.first)
            | none => (0, -1)
          setSpecial .matchStart (.number (FloatingNumber.ofInt start))
          setSpecial .matchLength (.number (FloatingNumber.ofInt length))
          return .number (FloatingNumber.ofInt start)
      | .format, format :: values => do
          let cells ← values.mapM eval
          let (written, fault) ← formatCells "sprintf" (← text format) cells
          failWith fault
          return .text written
      | .upper, [term] => return .text ((← text term).map Char.toUpper)
      | .lower, [term] => return .text ((← text term).map Char.toLower)
      | .sine, [term] => do result (← number term).sin
      | .cosine, [term] => do result (← number term).cos
      | .arcTangent, [first, second] => do
          let a ← number first
          result (a.atan2 (← number second))
      | .exponential, [term] => do result (← number term).exp
      | .logarithm, [term] => do result (← number term).log
      | .root, [term] => do result (← number term).sqrt
      | .whole, [term] => do result (← number term).truncate
      | .random, [] => do
          let seed := nextSeed (← get).seed
          modify fun m => { m with seed }
          result (FloatingNumber.ofRatio false ⟨seed, 2147483648⟩)
      | .seed, terms => do
          let old := (← get).seed
          let seed ← match terms with
            | [] => pure 0
            | term :: _ => pure (← number term).toInt.toNat
          modify fun m => { m with seed }
          return .ofNat old
      | .system, [term] => return .ofNat (← shell setting id (← text term))
      | .close, [term] => return .number (FloatingNumber.ofInt (← Act.close setting (← text term)))
      | .flush, _ => do
          flush
          return .ofNat 0
      | .seconds, _ => return .ofNat 0
      | _, _ => fail "wrong number of arguments in call to a function"

/-- Read a record into a place, and tell whether there was one. -/
def readRecord (setting : RunSetting) : Nat → Origin → Term → Option Term → Act Cell
  | 0, _, _, _ => fail "evaluation stack overflow"
  | depth + 1, origin, name, target => do
      let put (record : Cell) : Act Unit := do
        match target with
        | none => setRecord record
        | some target => do
            let goal ← locate setting depth target
            goal.store record
      let ended (code : Int) : Act Cell := return .number (FloatingNumber.ofInt code)
      match origin with
      | .records => do
          match ← nextRecord setting with
          | some text => do
              put (.input text)
              ended 1
          | none => ended 0
      | _ => do
          let isCommand := decide (origin = .command)
          let source ← textOf (← evaluate setting depth name)
          match ← nextOf setting isCommand source with
          | .error () => ended (-1)
          | .ok none => ended 0
          | .ok (some text) => do
              put (.input text)
              if isCommand then countUp .recordNumber
              ended 1

/-- Do a statement; at most `depth` terms and statements are nested. -/
def execute (setting : RunSetting) : Nat → Statement → Act Unit
  | 0, _ => fail "evaluation stack overflow"
  | depth + 1, statement => do
      let eval := evaluate setting depth
      match statement with
      | .nothing => return
      | .value term => do
          let _ ← eval term
      | .print isFormat values target => do
          let cells ← values.mapM eval
          let (text, fault) ←
            if isFormat then
              match cells with
              | [] => pure ([], none)
              | format :: rest => do formatCells "printf" (← textOf format) rest
            else
              let texts ←
                match cells with
                | [] => do pure [← textOf (← Act.field 0)]
                | _ => cells.mapM printedText
              let between ← specialText .fieldJoin
              pure (between.intercalate texts ++ (← specialText .recordJoin), none)
          match target with
          | none => print text
          | some (direction, name) => do
              printTo direction (← textOf (← eval name)) text
          failWith fault
      | .block statements => statements.forM (execute setting depth)
      | .branch condition accepted refused => do
          if (← eval condition).isTrue then execute setting depth accepted
          else
            match refused with
            | some other => execute setting depth other
            | none => return
      | .loop condition next body =>
          iterate
            (do
              let goesOn ←
                match condition with
                | none => pure true
                | some condition => pure (← eval condition).isTrue
              if goesOn then
                if ← loopBody (execute setting depth body) then
                  execute setting depth next
                  return true
                else return false
              else return false)
            maxRounds
      | .repetition body condition =>
          iterate
            (do
              if ← loopBody (execute setting depth body) then return (← eval condition).isTrue
              else return false)
            maxRounds
      | .each key table body => do
          let number ← tableOf table
          let keys ← onTable number Table.keys
          eachKey (fun text => do
            assign key (.text text)
            loopBody (execute setting depth body)) keys
      | .nextRecord => throw .nextRecord
      | .nextFile => throw .nextFile
      | .exit status => do
          match status with
          | none => throw (.exit none)
          | some term => do
              let code := (← eval term).toNumber.toInt
              throw (.exit (some (code % 256).toNat))
      | .leaveLoop => throw .leaveLoop
      | .continueLoop => throw .continueLoop
      | .leaveFunction result => do
          match result with
          | none => throw (.leaveFunction .missing)
          | some term => do throw (.leaveFunction (← eval term))
      | .delete table keys => do
          let key ← keyOf (← keys.mapM eval)
          let number ← tableOf table
          onTable number fun table => ((), table.erase key)
      | .deleteAll table => do
          let number ← tableOf table
          onTable number fun _ => ((), {})

/-- Do something with each of some keys as long as it says so. -/
def eachKey (step : NarrowText → Act Bool) : List NarrowText → Act Unit
  | [] => return
  | key :: rest => do
      if ← step key then eachKey step rest

end

/-! ## Whole runs -/

/-- How deep terms and statements may be nested. -/
def maxNesting : Nat := 20000

/-- The present record is one that a rule asks for. -/
def applies (setting : RunSetting) (pattern : Pattern) : Act Bool := do
  let isTrue (term : Term) : Act Bool := return (← evaluate setting maxNesting term).isTrue
  match pattern with
  | .always => return true
  | .one condition => isTrue condition
  | .range number first last => do
      let inside := ((← get).inside[number]?).getD false
      let begins ← if inside then pure true else isTrue first
      if begins then
        let ends ← isTrue last
        modify fun m => { m with inside := m.inside.setIfInBounds number !ends }
        return true
      else return false

/-- Do what rules say about the present record. -/
def applyRules (setting : RunSetting) (rules : List Rule) : Act Unit := do
  for rule in rules do
    if ← applies setting rule.pattern then execute setting maxNesting rule.body

/-- Go through the records. -/
def runRecords (setting : RunSetting) : Act Unit :=
  iterate
    (do
      match ← nextRecord setting with
      | none => return false
      | some text => do
          setRecord (.input text)
          try
            applyRules setting setting.program.rules
            return true
          catch leap =>
            match leap with
            | .nextRecord => return true
            | .nextFile => do
                modify fun m => { m with main := none }
                return true
            | other => throw other)
    maxRounds

/-- Run a part of a program, and tell how it was ended. -/
def untilExit (work : Act Unit) : Act (Option (Option Nat)) := fun m =>
  match (work.run m : Except Leap Unit × Machine) with
  | (.error (.exit status), m) => (.ok (some status), m)
  | (.error (.fault message tells), m) => (.error (.fault message tells), m)
  | (_, m) => (.ok none, m)

/-- Run a program, and tell its status. -/
def runProgram (setting : RunSetting) : Act Nat := do
  let program := setting.program
  let each (statements : List Statement) : Act Unit :=
    statements.forM (execute setting maxNesting)
  let first ← untilExit (each program.first)
  let second ←
    match first with
    | some status => pure (some status)
    | none =>
        if program.rules.isEmpty && program.last.isEmpty then pure none
        else untilExit (runRecords setting)
  let third ← untilExit (each program.last)
  closeTargets setting
  match third, second with
  | some (some status), _ => return status
  | _, some (some status) => return status
  | _, _ => return 0

end Records
end SyntaxCensus
