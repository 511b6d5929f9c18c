import SyntaxCensus.Host.Decimal.Ratio
import SyntaxCensus.Host.Text.Escapes
import SyntaxCensus.Host.Tools.Paths

/-!
# Surroundings of programs

Tools that start programs in changed surroundings, and that tell about the
surroundings they are in.

Main definitions:

- `Tools.env`: a program with other variables.
- `Tools.timeout`: a program with limited time.
- `Tools.nice`, `Tools.nohup`: a program as it is.
- `Tools.printenv`, `Tools.which`, `Tools.uname`, `Tools.identify`: what is around.
-/

namespace SyntaxCensus

namespace Process

/-- The process with another value of a variable for programs. -/
def withVariable (s : Process) (name value : NarrowText) : Process :=
  let known := s.environment.any fun binding => binding.1 = name
  { s with
    environment :=
      if known then
        s.environment.map fun binding => if binding.1 = name then (name, value) else binding
      else s.environment ++ [(name, value)] }

/-- The process without a variable for programs. -/
def withoutVariable (s : Process) (name : NarrowText) : Process :=
  { s with environment := s.environment.filter fun binding => binding.1 ≠ name }

end Process

namespace Tools

/-! ## Starting programs -/

/-- The status with which a tool ends that cannot start a program. -/
def startStatus (fault : SystemFault) : Nat :=
  if fault = .notFound then 127 else 126

/-- Put a program in the place of a tool, which ends with a complaint if that
is not possible. -/
def becomeOr (start : Starter) (tool : NarrowText) (words : List NarrowText)
    (complaint : NarrowText → NarrowText) : Work Nat := do
  let fault ← Work.become start words
  Work.complain tool (complaint (Work.quoted (words.headD [])) ++ ": ".toList ++
    fault.description.toList)
  return startStatus fault

/-! ## Words of one argument -/

/-- How far the words of one argument have been read: inside quotation marks of
a kind, and with a word that is begun, in reverse. -/
structure Splitting where
  mark : Option Char
  word : Option NarrowText
  done : List NarrowText

/-- A word with another character. -/
def Splitting.add (splitting : Splitting) (c : Char) : Splitting :=
  { splitting with word := some (c :: splitting.word.getD []) }

/-- The words without the one that is begun. -/
def Splitting.close (splitting : Splitting) : Splitting :=
  match splitting.word with
  | none => splitting
  | some word => { splitting with word := none, done := word.reverse :: splitting.done }

/-- What comes behind a backslash: how far the words are read then, and the
rest of the text, if it does not end there. -/
def splitEscape (splitting : Splitting) :
    NarrowText → Except NarrowText (Splitting × Option NarrowText)
  | [] => .error "invalid backslash at end of string in -S".toList
  | c :: rest =>
      if splitting.mark = some '\'' ∧ c ≠ '\\' ∧ c ≠ '\'' then
        .ok ((splitting.add '\\').add c, some rest)
      else if c = 'c' then
        if splitting.mark = some '"' then
          .error "'\\c' must not appear in double-quoted -S string".toList
        else .ok (splitting, none)
      else if c = '_' then
        .ok (if splitting.mark = some '"' then splitting.add ' ' else splitting.close, some rest)
      else if "fnrtv\"#$'\\".toList.contains c then
        .ok (splitting.add ((EscapeStyle.letter? c).getD c), some rest)
      else .error ("invalid sequence '\\".toList ++ [c] ++ "' in -S".toList)

/-- What comes behind a dollar sign: the value of a name in braces. -/
def splitValue (value : NarrowText → NarrowText) (splitting : Splitting) (text : NarrowText) :
    Except NarrowText (Splitting × Option NarrowText) :=
  let name := (text.drop 1).takeWhile (· ≠ '\x7d')
  match decide (text.head? = some '\x7b'), text.dropWhile (· ≠ '\x7d') with
  | true, _ :: after =>
      .ok ({ splitting with word := some ((value name).reverse ++ splitting.word.getD []) },
        some after)
  | _, _ =>
      .error ("only $\x7bVARNAME\x7d expansion is supported, error at: $".toList ++ text)

/-- One step of reading the words of one argument. -/
def splitStep (value : NarrowText → NarrowText) (splitting : Splitting) (c : Char)
    (rest : NarrowText) : Except NarrowText (Splitting × Option NarrowText) :=
  match splitting.mark with
  | some mark =>
      if c = mark then .ok ({ splitting with mark := none }, some rest)
      else if c = '\\' then splitEscape splitting rest
      else if c = '$' ∧ mark = '"' then splitValue value splitting rest
      else .ok (splitting.add c, some rest)
  | none =>
      if c = '\'' ∨ c = '"' then
        .ok ({ splitting with mark := some c, word := some (splitting.word.getD []) }, some rest)
      else if Numeral.isSpace c then .ok (splitting.close, some rest)
      else if c = '#' ∧ splitting.word.isNone = true then .ok (splitting, none)
      else if c = '\\' then splitEscape splitting rest
      else if c = '$' then splitValue value splitting rest
      else .ok (splitting.add c, some rest)

/-- The words of one argument, as they stand between blanks or in quotes; at
most `limit` steps. -/
def splitWords (value : NarrowText → NarrowText) (splitting : Splitting) :
    Nat → NarrowText → Except NarrowText (List NarrowText)
  | 0, _ => .ok splitting.close.done.reverse
  | _, [] =>
      match splitting.mark with
      | some _ => .error "no terminating quote in -S string".toList
      | none => .ok splitting.close.done.reverse
  | limit + 1, c :: rest =>
      match splitStep value splitting c rest with
      | .error problem => .error problem
      | .ok (splitting, none) => .ok splitting.close.done.reverse
      | .ok (splitting, some rest) => splitWords value splitting limit rest

/-! ## Programs in other surroundings -/

/-- Arguments in which an option for several words is replaced by them; at most
`limit` arguments are looked at. -/
def withSplitWords (split : NarrowText → Except NarrowText (List NarrowText)) :
    Nat → List NarrowText → Except NarrowText (List NarrowText)
  | 0, arguments => .ok arguments
  | _, [] => .ok []
  | limit + 1, word :: rest =>
      let replaced (text : NarrowText) (after : List NarrowText) :
          Except NarrowText (List NarrowText) := do
        withSplitWords split limit ((← split text) ++ after)
      let long := "--split-string".toList
      if long.isPrefixOf word then
        match word.drop long.length, rest with
        | '=' :: text, _ => replaced text rest
        | _, text :: after => replaced text after
        | _, [] => .ok [word]
      else
        match word with
        | ['-', '-'] => .ok (word :: rest)
        | '-' :: '-' :: _ => do return word :: (← withSplitWords split limit rest)
        | '-' :: c :: letters =>
            let all := c :: letters
            let front := all.takeWhile fun d => "i0v".toList.contains d
            let kept (more : List NarrowText) : List NarrowText :=
              if front.isEmpty then more else ('-' :: front) :: more
            match all.drop front.length, rest with
            | 'S' :: text, after =>
                match text, after with
                | [], next :: after => (replaced next after).map kept
                | text, after => (replaced text after).map kept
            | [_], value :: after => do
                return word :: value :: (← withSplitWords split limit after)
            | _, after => do return word :: (← withSplitWords split limit after)
        | _ => .ok (word :: rest)

/-- The variables that are set in front of a command, and the command. -/
def leadingSettings : List NarrowText → List (NarrowText × NarrowText) × List NarrowText
  | [] => ([], [])
  | word :: rest =>
      match word.dropWhile (· ≠ '=') with
      | _ :: value =>
          let (settings, command) := leadingSettings rest
          ((word.takeWhile (· ≠ '='), value) :: settings, command)
      | [] => ([], word :: rest)

/-- Start a program with other variables, or show the variables. -/
def env : Tool := fun start tool arguments => do
  let s ← get
  let value (name : NarrowText) : NarrowText := (s.bound? (NarrowText.toString name)).getD []
  let split (text : NarrowText) : Except NarrowText (List NarrowText) :=
    splitWords value ⟨none, none, []⟩ (text.length + 1) text
  let arguments ←
    match withSplitWords split 1000 arguments with
    | .ok arguments => pure arguments
    | .error problem => Work.fail tool 125 problem
  let shebangHint := "use -[v]S to pass options in shebang lines".toList
  let known :=
    [option 'i' "ignore-environment", valued 'u' "unset", option '0' "null", valued 'C' "chdir",
      valued 'S' "split-string", option 'v' "debug"]
  let found ←
    match findOptions known false arguments with
    | .ok found => pure found
    | .error problem => do
        Work.complain tool problem
        if problem = "invalid option -- ' '".toList then Work.complain tool shebangHint
        Work.printDiagnostic (hint tool)
        Work.exit 125
  let (bare, operands) :=
    match found.operands with
    | ['-'] :: rest => (true, rest)
    | operands => (false, operands)
  let (settings, command) := leadingSettings operands
  if found.has "i" || bare then Work.onProcess fun s => { s with environment := [] }
  for name in found.values "u" do
    if name.isEmpty || name.contains '=' then
      Work.fail tool 125 ("cannot unset ".toList ++ Work.quoted name ++ ": Invalid argument".toList)
    Work.onProcess fun s => s.withoutVariable name
  for (name, value) in settings do
    if name.isEmpty then
      Work.fail tool 125 ("cannot set ".toList ++ Work.quoted name ++ ": Invalid argument".toList)
    Work.onProcess fun s => s.withVariable name value
  let mark := if found.has "0" then Char.ofNat 0 else '\n'
  if found.has "0" && !command.isEmpty then
    misuse tool 125 "cannot specify --null (-0) with command".toList
  match found.value? "C" with
  | none => pure ()
  | some path => do
      if command.isEmpty then misuse tool 125 "must specify command with --chdir (-C)".toList
      match (← get).files.find (NarrowText.toString path) with
      | .ok (location, .directory _) =>
          Work.onProcess fun s => { s with files := { s.files with working := location } }
      | .ok _ =>
          Work.fail tool 125 ("cannot change directory to ".toList ++ Work.quotedName path ++
            ": Not a directory".toList)
      | .error fault =>
          Work.fail tool 125 ("cannot change directory to ".toList ++ Work.quotedName path ++
            ": ".toList ++ fault.description.toList)
  match command with
  | [] => do
      Work.print tool ((← get).bindings.flatMap fun binding => binding ++ [mark])
      return 0
  | name :: _ => do
      let status ← becomeOr start tool command id
      if status = 127 && name.contains ' ' then Work.complain tool shebangHint
      return status

/-- The milliseconds of a length of time. -/
def milliseconds? (text : NarrowText) : Option Nat :=
  match FloatingNumber.read? 64 text with
  | some (.finite false magnitude, rest) =>
      let seconds (count : Nat) : Option Nat :=
        some ((magnitude.numerator * count * 1000 + magnitude.denominator - 1) /
          magnitude.denominator)
      match rest with
      | [] | ['s'] => seconds 1
      | ['m'] => seconds 60
      | ['h'] => seconds 3600
      | ['d'] => seconds 86400
      | _ => none
  | some (.infinite false, []) => some (Nat.pow 10 18)
  | _ => none

/-- Wait for some time. -/
def sleep : Tool := fun _ tool arguments => do
  let found ← optionsOf tool 1 [] true arguments
  if found.operands.isEmpty then missingOperand tool none
  let mut total := 0
  let mut fine := true
  for text in found.operands do
    match milliseconds? text with
    | some time => total := total + time
    | none => do
        Work.complain tool ("invalid time interval ".toList ++ Work.quoted text)
        fine := false
  if !fine then
    Work.printDiagnostic (hint tool)
    Work.exit 1
  let time := total
  Work.onProcess fun s => { s with clock := s.clock + time }
  return 0

/-- Start a program that has to end in time. -/
def timeout : Tool := fun start tool arguments => do
  let found ← optionsOf tool 125
    [valued 'k' "kill-after", valued 's' "signal", long "preserve-status", long "foreground",
      option 'v' "verbose"] false arguments
  match found.operands with
  | [] | [_] => do
      Work.printDiagnostic (hint tool)
      return 125
  | time :: command => do
      match milliseconds? time with
      | none => misuse tool 125 ("invalid time interval ".toList ++ Work.quoted time)
      | some time => do
          let before := (← get).clock
          match ← Work.call start command with
          | .error fault => do
              Work.complain tool ("failed to run command ".toList ++
                Work.quoted (command.headD []) ++ ": ".toList ++ fault.description.toList)
              return startStatus fault
          | .ok ending => do
              let after := (← get).clock
              if time ≠ 0 && decide (time < after - before) then
                Work.onProcess fun s => { s with clock := before + time }
                return 124
              else
                match ending with
                | .exited status => return status
                | killed => throw killed

/-- Start a program with less right to be served. -/
def nice : Tool := fun start tool arguments => do
  let found ← optionsOf tool 125 [valued 'n' "adjustment"] false arguments
  match found.value? "n" with
  | some text =>
      if (Numeral.integer? Numeral.decimal? text).isNone then
        Work.fail tool 125 ("invalid adjustment ".toList ++ Work.quoted text)
  | none => pure ()
  match found.operands with
  | [] => do
      if found.has "n" then misuse tool 125 "a command must be given with an adjustment".toList
      Work.print tool ['0', '\n']
      return 0
  | command => becomeOr start tool command id

/-- Start a program that goes on when its terminal is closed. -/
def nohup : Tool := fun start tool arguments => do
  let found ← optionsOf tool 125 [] false arguments
  match found.operands with
  | [] => misuse tool 125 "missing operand".toList
  | command => becomeOr start tool command fun name => "failed to run command ".toList ++ name

/-! ## What is around -/

/-- Show the values of variables. -/
def printenv : Tool := fun _ tool arguments => do
  let found ← optionsOf tool 2 [option '0' "null"] true arguments
  let mark := if found.has "0" then Char.ofNat 0 else '\n'
  let s ← get
  match found.operands with
  | [] => do
      Work.print tool (s.bindings.flatMap fun binding => binding ++ [mark])
      return 0
  | names => do
      let values := names.map fun name =>
        if name.contains '=' then none else s.bound? (NarrowText.toString name)
      Work.print tool (values.flatMap fun value? =>
        match value? with
        | some value => value ++ [mark]
        | none => [])
      return Work.statusOf (values.all Option.isSome)

/-- Show where programs are found. -/
def which : Tool := fun _ tool arguments => do
  let (all, names) :=
    match arguments with
    | ['-', 'a'] :: rest => (true, rest)
    | names => (false, names)
  let s ← get
  let places (name : NarrowText) : List NarrowText :=
    (placesOf s.searchPath name).filter fun place =>
      match s.files.find (NarrowText.toString place) with
      | .ok (_, .file _ executable) => executable
      | _ => false
  let found := names.map places
  Work.printLines tool (found.flatMap fun places => if all then places else places.take 1)
  return Work.statusOf (!names.isEmpty && found.all fun places => !places.isEmpty)

/-- Show the name of the system. -/
def uname : Tool := fun _ tool arguments => do
  let found ← optionsOf tool 1
    [option 'a' "all", option 's' "kernel-name", option 'n' "nodename",
      option 'r' "kernel-release", option 'v' "kernel-version", option 'm' "machine",
      option 'p' "processor", option 'i' "hardware-platform", option 'o' "operating-system"]
    true arguments
  match found.operands with
  | extra :: _ => extraOperand tool extra
  | [] => do
      let parts :=
        [("s", "Linux"), ("n", "localhost"), ("m", "x86_64"), ("o", "GNU/Linux")].filter
          fun (key, _) =>
            found.has key || found.has "a" || (found.options.isEmpty && key = "s")
      Work.print tool ([' '].intercalate (parts.map fun part => part.2.toList) ++ ['\n'])
      return 0

/-- Show the user. -/
def whoami : Tool := fun _ tool arguments => do
  let found ← optionsOf tool 1 [] true arguments
  match found.operands with
  | extra :: _ => extraOperand tool extra
  | [] => do
      Work.print tool "root\n".toList
      return 0

/-- Show the user and the groups. -/
def identify : Tool := fun _ tool arguments => do
  let found ← optionsOf tool 1
    [option 'u' "user", option 'g' "group", option 'G' "groups", option 'n' "name",
      option 'r' "real", option 'z' "zero", flag 'a'] true arguments
  let one := found.has "u" || found.has "g" || found.has "G"
  if found.has "n" && !one then
    Work.fail tool 1 "cannot print only names or real IDs in default format".toList
  Work.print tool
    (if !one then "uid=0(root) gid=0(root) groups=0(root)\n"
      else if found.has "n" then "root\n" else "0\n").toList
  return 0

/-- Succeed. -/
def succeed : Tool := fun _ _ _ => return 0

/-- Fail. -/
def giveUp : Tool := fun _ _ _ => return 1

/-- Tell that the input is no terminal. -/
def tty : Tool := fun _ tool arguments => do
  let found ← optionsOf tool 2 [option 's' "silent", long "quiet"] true arguments
  if !found.has "s" && !found.has "quiet" then Work.print tool "not a tty\n".toList
  return 1

end Tools
end SyntaxCensus
