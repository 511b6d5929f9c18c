import SyntaxCensus.Host.Tools.Records.Matching
import SyntaxCensus.Host.Tools.Records.Token

/-!
# Reading programs on records

Variables get numbers when they are first mentioned; those with a meaning of
their own have the first ones.  The operands of the operators are read from the
weakest operator to the strongest one.

Main definitions:

- `Records.ProgramReading`: a step of reading.
- `Records.readProgram`: the program that a text spells.
-/

namespace SyntaxCensus
namespace Records

/-- What is left to read, and the names that were mentioned. -/
structure ProgramSource where
  rest : List Lexeme
  names : Array NarrowText
  parameters : List NarrowText := []
  functionNames : Array NarrowText := #[]
  functions : List (Nat × Function) := []
  ranges : Nat := 0

/-- A step of reading. -/
abbrev ProgramReading (α : Type) := StateT ProgramSource (Except ProgramFault) α

namespace ProgramReading

/-- The next token. -/
def next : ProgramReading Token :=
  return ((← get).rest.head?.map Lexeme.token).getD .ending

/-- Pass the next token. -/
def pass : ProgramReading Unit :=
  modify fun source => { source with rest := source.rest.tail }

/-- End with a fault at the next token. -/
def fail {α : Type} : ProgramReading α := do
  let (line, shown) := match (← get).rest.head? with
    | some lexeme => (lexeme.line, lexeme.shown)
    | none => (1, "end of file".toList)
  throw ⟨s!"line {line}: syntax error at or near ".toList ++ shown⟩

/-- The next token is a mark. -/
def isNext (wanted : String) : ProgramReading Bool := do
  match ← next with
  | .mark mark => return mark = wanted
  | _ => return false

/-- Pass a mark if it is next. -/
def take? (wanted : String) : ProgramReading Bool := do
  let found ← isNext wanted
  if found then pass
  return found

/-- Pass a mark, which has to be next. -/
def expect (wanted : String) : ProgramReading Unit := do
  if !(← take? wanted) then fail

/-- Pass a word if it is next. -/
def takeWord? (wanted : String) : ProgramReading Bool := do
  match ← next with
  | .keyword word => do
      if word = wanted then pass
      return word = wanted
  | _ => return false

/-- Pass line ends. -/
def passLines : ProgramReading Unit :=
  modify fun source =>
    { source with
      rest := source.rest.dropWhile fun lexeme =>
        match lexeme.token with
        | .lineEnd => true
        | _ => false }

/-- Pass line ends and semicolons. -/
def passSeparators : ProgramReading Unit :=
  modify fun source =>
    { source with
      rest := source.rest.dropWhile fun lexeme =>
        match lexeme.token with
        | .lineEnd => true
        | .mark mark => mark = ";"
        | _ => false }

/-- The place of a variable. -/
def place (name : NarrowText) : ProgramReading Place := do
  let source ← get
  match source.parameters.idxOf? name with
  | some number => return .own number
  | none =>
      match source.names.idxOf? name with
      | some number => return .shared number
      | none => do
          set { source with names := source.names.push name }
          return .shared source.names.size

/-- The number of a function. -/
def functionNumber (name : NarrowText) : ProgramReading Nat := do
  let source ← get
  match source.functionNames.idxOf? name with
  | some number => return number
  | none => do
      set { source with functionNames := source.functionNames.push name }
      return source.functionNames.size

/-- A name, which has to be next. -/
def name : ProgramReading NarrowText := do
  match ← next with
  | .name name | .called name => do
      pass
      return name
  | _ => fail

/-- What follows the parenthesis that closes the one in front. -/
def behindParenthesis (depth : Nat) : List Lexeme → Option Token
  | [] => none
  | lexeme :: rest =>
      match lexeme.token with
      | .mark "(" => behindParenthesis (depth + 1) rest
      | .mark ")" =>
          if depth ≤ 1 then rest.head?.map Lexeme.token else behindParenthesis (depth - 1) rest
      | _ => behindParenthesis depth rest

/-- A token ends a statement. -/
def endsStatement : Token → Bool
  | .lineEnd | .ending => true
  | .mark mark => mark = ";" || mark = "\x7d"
  | _ => false

/-- A token tells where printed text goes. -/
def leads : Token → Bool
  | .mark mark => mark = ">" || mark = ">>" || mark = "|"
  | _ => false

end ProgramReading

open ProgramReading

/-! ## Terms -/

/-- The operation of a mark that changes a variable by it. -/
def updateOperation? (mark : String) : Option Operation :=
  match mark with
  | "+=" => some .add
  | "-=" => some .subtract
  | "*=" => some .multiply
  | "/=" => some .divide
  | "%=" => some .remainder
  | "^=" => some .power
  | _ => none

/-- The relation of a mark.  The one for more is left to where printed text
goes if that is asked for. -/
def relation? (leavesMore : Bool) (mark : String) : Option Relation :=
  match mark with
  | "==" => some .equal
  | "!=" => some .different
  | "<" => some .less
  | "<=" => some .atMost
  | ">" => if leavesMore then none else some .more
  | ">=" => some .atLeast
  | _ => none

/-- A token begins a term that can follow another one. -/
def beginsOperand : Token → Bool
  | .number _ | .text _ | .pattern _ | .name _ | .called _ | .builtin _ => true
  | .mark mark => mark = "$" || mark = "(" || mark = "!" || mark = "-" || mark = "+" ||
      mark = "++" || mark = "--"
  | _ => false

/-- Read terms that a mark joins, from the left to the right; at most `limit`
further ones. -/
def readChain (operator? : String → Option (Term → Term → Term)) (operand : ProgramReading Term)
    (first : Term) : Nat → ProgramReading Term
  | 0 => return first
  | limit + 1 => do
      match ← next with
      | .mark mark =>
          match operator? mark with
          | none => return first
          | some combine => do
              pass
              if mark = "&&" || mark = "||" then passLines
              let second ← operand
              readChain operator? operand (combine first second) limit
      | _ => return first

/-- Read terms between commas. -/
def readSeveral (operand : ProgramReading Term) (closing : String) :
    Nat → ProgramReading (List Term)
  | 0 => fail
  | limit + 1 => do
      passLines
      let first ← operand
      passLines
      if ← take? closing then return [first]
      expect ","
      return first :: (← readSeveral operand closing limit)

/-- Read terms between commas up to a mark, perhaps none. -/
def readArguments (operand : ProgramReading Term) (closing : String) :
    ProgramReading (List Term) := do
  passLines
  if ← take? closing then return []
  readSeveral operand closing ((← get).rest.length + 1)

/-- Read further operands of a term that are joined without a mark. -/
def readJoined (operand : ProgramReading Term) (first : Term) : Nat → ProgramReading Term
  | 0 => return first
  | limit + 1 => do
      if beginsOperand (← next) then
        let second ← operand
        readJoined operand (.joined first second) limit
      else return first

/-- Read the matches that a term is compared with. -/
def readFits (operand : ProgramReading Term) (first : Term) : Nat → ProgramReading Term
  | 0 => return first
  | limit + 1 => do
      if ← take? "~" then readFits operand (.fits false first (← operand)) limit
      else if ← take? "!~" then readFits operand (.fits true first (← operand)) limit
      else return first

/-- Read the tables that a term may be a key of. -/
def readTables (first : Term) : Nat → ProgramReading Term
  | 0 => return first
  | limit + 1 => do
      if ← takeWord? "in" then
        let table ← place (← name)
        readTables (.isIn [first] table) limit
      else return first

/-- What a mark of a sum makes of two terms. -/
def sum? (mark : String) : Option (Term → Term → Term) :=
  match mark with
  | "+" => some (.calculation .add)
  | "-" => some (.calculation .subtract)
  | _ => none

/-- What a mark of a product makes of two terms. -/
def product? (mark : String) : Option (Term → Term → Term) :=
  match mark with
  | "*" => some (.calculation .multiply)
  | "/" => some (.calculation .divide)
  | "%" => some (.calculation .remainder)
  | _ => none

/-- What one mark makes of two terms. -/
def only (wanted : String) (combine : Term → Term → Term) (mark : String) :
    Option (Term → Term → Term) :=
  if mark = wanted then some combine else none

/-- The expression between slashes. -/
def patternOf (written : NarrowText) : ProgramReading Expression := do
  match expression? written with
  | .ok found => return found
  | .error _ => do
      let line := ((← get).rest.head?.map Lexeme.line).getD 1
      throw ⟨s!"line {line}: regular expression compile failed (bad expression)".toList ++
        '\n' :: written⟩

mutual

/-- Read a term.  The mark for more is left alone if it tells where printed
text goes.  The number of steps is limited, as for all readers of terms. -/
def readTerm (leavesMore : Bool) : Nat → ProgramReading Term
  | 0 => fail
  | limit + 1 => do
      let size := (← get).rest.length
      let conjunctions := do
        let alternatives := readAlternative leavesMore limit
        let first ← alternatives
        readChain (only "&&" .both) alternatives first size
      let first ← conjunctions
      let condition ← readChain (only "||" .either) conjunctions first size
      if ← take? "?" then
        passLines
        let accepted ← readTerm leavesMore limit
        passLines
        expect ":"
        passLines
        return .choice condition accepted (← readTerm leavesMore limit)
      else return condition

/-- Read a term that is not joined by "and" or "or". -/
def readAlternative (leavesMore : Bool) : Nat → ProgramReading Term
  | 0 => fail
  | limit + 1 => do
      let size := (← get).rest.length
      let sums := do
        let products := do
          let first ← readSigned limit
          readChain product? (readSigned limit) first size
        let first ← products
        readChain sum? products first size
      let joined := do
        let first ← sums
        readJoined sums first size
      let compared := do
        let first ← joined
        readChain (fun mark => (relation? leavesMore mark).map Term.comparison) joined first size
      let fitted := do
        let first ← compared
        readFits compared first size
      readTables (← fitted) size

/-- Read a term with signs before it. -/
def readSigned : Nat → ProgramReading Term
  | 0 => fail
  | limit + 1 => do
      if ← take? "!" then return .negation (← readSigned limit)
      else if ← take? "-" then return .opposite (← readSigned limit)
      else if ← take? "+" then return .asNumber (← readSigned limit)
      else
        let first ← readPower limit
        readCommands first (← get).rest.length limit

/-- Read the records that a command behind a term gives. -/
def readCommands (first : Term) : Nat → Nat → ProgramReading Term
  | 0, _ => return first
  | _, 0 => return first
  | size + 1, limit + 1 => do
      match (← get).rest with
      | bar :: word :: _ =>
          match bar.token, word.token with
          | .mark "|", .keyword "getline" => do
              pass
              pass
              let target ← readTarget? limit
              readCommands (.read .command first target) size limit
          | _, _ => return first
      | _ => return first

/-- Read a power. -/
def readPower : Nat → ProgramReading Term
  | 0 => fail
  | limit + 1 => do
      let base ← readPostfix limit
      if ← take? "^" then return .calculation .power base (← readSigned limit)
      else return base

/-- Read a term that a value may be given to, or that is counted up or down
afterwards. -/
def readPostfix : Nat → ProgramReading Term
  | 0 => fail
  | limit + 1 => do
      let first ← readPrimary limit
      if !first.isTarget then return first
      match ← next with
      | .mark mark =>
          if mark = "++" then do
            pass
            return .step true false first
          else if mark = "--" then do
            pass
            return .step false false first
          else if mark = "=" then do
            pass
            passLines
            return .assignment first (← readTerm false limit)
          else
            match updateOperation? mark with
            | some operation => do
                pass
                passLines
                return .update operation first (← readTerm false limit)
            | none => return first
      | _ => return first

/-- Read a place for a record, if there is one. -/
def readTarget? : Nat → ProgramReading (Option Term)
  | 0 => return none
  | limit + 1 => do
      match ← next with
      | .name _ => return some (← readPrimary limit)
      | .mark "$" => return some (← readPrimary limit)
      | _ => return none

/-- Read a term that is no operator's. -/
def readPrimary : Nat → ProgramReading Term
  | 0 => fail
  | limit + 1 => do
      let argument := readTerm false limit
      match ← next with
      | .number value => do
          pass
          return .number value
      | .text written => do
          pass
          return .text written
      | .pattern written => do
          pass
          return .pattern (← patternOf written)
      | .name name => do
          pass
          let found ← place name
          if ← take? "[" then
            let keys ← readArguments argument "]"
            if keys.isEmpty then fail
            return .element found keys
          else return .variable found
      | .called name => do
          pass
          pass
          let arguments ← readArguments argument ")"
          return .call (← functionNumber name) arguments
      | .builtin found => do
          pass
          if ← take? "(" then return .builtin found (← readArguments argument ")")
          else if found = .length then return .builtin found []
          else fail
      | .keyword "getline" => do
          pass
          let target ← readTarget? limit
          if ← take? "<" then
            let file ← readPower limit
            return .read .file file target
          else return .read .records zeroTerm target
      | .mark "$" => do
          pass
          if ← take? "++" then return .field (.step true true (← readPrimary limit))
          else if ← take? "--" then return .field (.step false true (← readPrimary limit))
          else if ← take? "-" then return .field (.opposite (← readPrimary limit))
          else return .field (← readPrimary limit)
      | .mark "++" => do
          pass
          let target ← readPrimary limit
          if target.isTarget then return .step true true target else fail
      | .mark "--" => do
          pass
          let target ← readPrimary limit
          if target.isTarget then return .step false true target else fail
      | .mark "-" => do
          pass
          return .opposite (← readPrimary limit)
      | .mark "(" => do
          pass
          let inner ← readArguments argument ")"
          match inner with
          | [] => fail
          | [single] => return grouped single
          | several => do
              if ← takeWord? "in" then return .isIn several (← place (← name))
              else fail
      | _ => fail
where
  /-- A term in parentheses, which a value cannot be given to. -/
  grouped (term : Term) : Term :=
    match term with
    | .variable _ | .element _ _ => term
    | other => other

end

/-! ## Statements -/

/-- Pass the end of a statement. -/
def passEnd : ProgramReading Unit := do
  let token ← next
  if endsStatement token then
    match token with
    | .mark "\x7d" | .ending => return
    | _ => passSeparators
  else fail

/-- Where printed text goes, if that is said. -/
def readDirection (size : Nat) : ProgramReading (Option (Direction × Term)) := do
  let target (direction : Direction) := do
    pass
    return some (direction, ← readTerm true size)
  match ← next with
  | .mark ">" => target .replace
  | .mark ">>" => target .extend
  | .mark "|" => target .command
  | _ => return none

/-- Read what is printed. -/
def readPrint (formatted : Bool) (size : Nat) : ProgramReading Statement := do
  let rest := (← get).rest
  let isList : Bool :=
    match rest.head?.map Lexeme.token with
    | some (.mark "(") =>
        match behindParenthesis 0 rest with
        | some token => endsStatement token || leads token
        | none => true
    | _ => false
  let values ←
    if isList then do
      pass
      readArguments (readTerm false size) ")"
    else if endsStatement (← next) || leads (← next) then pure []
    else readValues rest.length
  if formatted && values.isEmpty then fail
  let target ← readDirection size
  return .print formatted values target
where
  /-- Read terms between commas; at most `limit`. -/
  readValues : Nat → ProgramReading (List Term)
    | 0 => fail
    | limit + 1 => do
        let first ← readTerm true size
        if ← take? "," then
          passLines
          return first :: (← readValues limit)
        else return [first]

/-- Read what can stand alone and is ended by a line end or a semicolon. -/
def readSimple (size : Nat) : ProgramReading Statement := do
  let value? : ProgramReading (Option Term) := do
    if endsStatement (← next) then return none else return some (← readTerm false size)
  match ← next with
  | .keyword "print" => do
      pass
      readPrint false size
  | .keyword "printf" => do
      pass
      readPrint true size
  | .keyword "next" => do
      pass
      return .nextRecord
  | .keyword "nextfile" => do
      pass
      return .nextFile
  | .keyword "break" => do
      pass
      return .leaveLoop
  | .keyword "continue" => do
      pass
      return .continueLoop
  | .keyword "exit" => do
      pass
      return .exit (← value?)
  | .keyword "return" => do
      pass
      return .leaveFunction (← value?)
  | .keyword "delete" => do
      pass
      let parenthesized ← take? "("
      let table ← place (← name)
      let statement ←
        if ← take? "[" then
          pure (Statement.delete table (← readArguments (readTerm false size) "]"))
        else pure (.deleteAll table)
      if parenthesized then expect ")"
      return statement
  | _ => return .value (← readTerm false size)

mutual

/-- Read a statement with its end.  The number of steps is limited, as for all
readers of statements. -/
def readStatement : Nat → ProgramReading Statement
  | 0 => fail
  | limit + 1 => do
      let size := 4 * (← get).rest.length + 40
      let condition := do
        expect "("
        passLines
        let found ← readTerm false size
        passLines
        expect ")"
        return found
      match ← next with
      | .mark ";" => do
          passSeparators
          return .nothing
      | .mark "\x7b" => do
          let found ← readBlock limit
          passSeparators
          return found
      | .keyword "if" => do
          pass
          let asked ← condition
          passLines
          let accepted ← readStatement limit
          passSeparators
          if ← takeWord? "else" then
            passLines
            return .branch asked accepted (some (← readStatement limit))
          else return .branch asked accepted none
      | .keyword "while" => do
          pass
          let asked ← condition
          if ← isNext ";" then
            passSeparators
            return .loop (some asked) .nothing .nothing
          else
            passLines
            return .loop (some asked) .nothing (← readStatement limit)
      | .keyword "do" => do
          pass
          passLines
          let body ← readStatement limit
          passSeparators
          if !(← takeWord? "while") then fail
          let asked ← condition
          passEnd
          return .repetition body asked
      | .keyword "for" => do
          pass
          expect "("
          match (← get).rest.map Lexeme.token with
          | .name key :: .keyword "in" :: .name table :: .mark ")" :: _ => do
              pass
              pass
              pass
              pass
              passLines
              let key ← place key
              let table ← place table
              return .each key table (← readStatement limit)
          | _ => do
              let first ← if ← isNext ";" then pure Statement.nothing else readSimple size
              expect ";"
              passLines
              let asked ← if ← isNext ";" then pure none else pure (some (← readTerm false size))
              expect ";"
              passLines
              let next ← if ← isNext ")" then pure Statement.nothing else readSimple size
              passLines
              expect ")"
              if ← isNext ";" then
                passSeparators
                return .block [first, .loop asked next .nothing]
              else
                passLines
                return .block [first, .loop asked next (← readStatement limit)]
      | _ => do
          let found ← readSimple size
          passEnd
          return found

/-- Read statements between braces. -/
def readBlock : Nat → ProgramReading Statement
  | 0 => fail
  | limit + 1 => do
      expect "\x7b"
      passSeparators
      let found ← readStatements limit
      expect "\x7d"
      return .block found

/-- Read statements up to a closing brace. -/
def readStatements : Nat → ProgramReading (List Statement)
  | 0 => return []
  | limit + 1 => do
      match ← next with
      | .mark "\x7d" => return []
      | .ending => do
          let line := ((← get).rest.head?.map Lexeme.line).getD 1
          throw ⟨s!"line {line + 1}: missing \x7d near end of file".toList⟩
      | _ => do
          let first ← readStatement limit
          return first :: (← readStatements limit)

end

/-! ## Programs -/

/-- Read the names of parameters up to a parenthesis; at most `limit`. -/
def readParameters : Nat → ProgramReading (List NarrowText)
  | 0 => fail
  | limit + 1 => do
      if ← take? ")" then return []
      let first ← name
      passLines
      if ← take? "," then
        passLines
        return first :: (← readParameters limit)
      else
        expect ")"
        return [first]

/-- Read the parts of a program; at most `limit`. -/
def readParts (program : Program) : Nat → ProgramReading Program
  | 0 => return program
  | limit + 1 => do
      passSeparators
      let source ← get
      let size := 4 * source.rest.length + 40
      match ← next with
      | .ending => return program
      | .keyword "function" => do
          pass
          let number ← functionNumber (← name)
          expect "("
          let parameters ← readParameters size
          passLines
          modify fun source => { source with parameters }
          let body ← readBlock size
          modify fun source =>
            { source with
              parameters := []
              functions := (number, ⟨parameters.length, body⟩) :: source.functions }
          readParts program limit
      | .keyword "BEGIN" => do
          pass
          let body ← readBlock size
          readParts { program with first := program.first ++ [body] } limit
      | .keyword "END" => do
          pass
          let body ← readBlock size
          readParts { program with last := program.last ++ [body] } limit
      | .mark "\x7b" => do
          let body ← readBlock size
          readParts { program with rules := program.rules ++ [⟨.always, body⟩] } limit
      | _ => do
          let first ← readTerm false size
          let pattern ←
            if ← take? "," then do
              passLines
              let last ← readTerm false size
              let number := (← get).ranges
              modify fun source => { source with ranges := number + 1 }
              pure (Pattern.range number first last)
            else pure (.one first)
          let body ←
            if ← isNext "\x7b" then readBlock size
            else do
              passEnd
              pure (.print false [] none)
          readParts { program with rules := program.rules ++ [⟨pattern, body⟩] } limit

/-- The program that a text spells. -/
def readProgram (text : NarrowText) : Except ProgramFault Program := do
  let lexemes ← tokens text
  let empty : Program := ⟨[], [], [], #[], #[], 0⟩
  let names := (specialNames.map String.toList).toArray
  let (program, source) ← (readParts empty (lexemes.length + 1)).run { rest := lexemes, names }
  let lines := ((lexemes.getLast?.map Lexeme.line).getD 1) + 1
  let functions ← source.functionNames.toList.zipIdx.mapM fun (name, number) =>
    match source.functions.find? fun entry => entry.1 = number with
    | some entry => Except.ok entry.2
    | none =>
        .error ⟨s!"line {lines}: function ".toList ++ name ++ " never defined".toList⟩
  return { program with
    functions := functions.toArray
    names := source.names
    ranges := source.ranges }

end Records
end SyntaxCensus
