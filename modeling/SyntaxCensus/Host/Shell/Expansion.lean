import SyntaxCensus.Host.Shell.Braces
import SyntaxCensus.Host.Shell.Evaluation
import SyntaxCensus.Host.Shell.FileNames

/-!
# Expanding words

A word is expanded part by part: parameters give their values, substitutions
the output of their commands, calculations their result.  What is not from
quotes is then split into fields, and fields that are patterns give the names
of files.  How the output of a command is made is a parameter.

Main definitions:

- `Shell.expandWord`: the parts of an expanded word.
- `Shell.expandFields`: the fields that words are expanded to.
- `Shell.expandText`: the text of a word that is one field.
- `Shell.expandPattern`: the pattern that a word spells.
-/

namespace SyntaxCensus
namespace Shell

/-! ## Home directories -/

/-- The users that every system has, with their home directories. -/
def homes : List (String × String) :=
  [("root", "/root"), ("daemon", "/usr/sbin"), ("bin", "/bin"), ("sys", "/dev"),
    ("games", "/usr/games"), ("mail", "/var/mail"), ("www-data", "/var/www"),
    ("nobody", "/nonexistent")]

/-- The home directory of a user; without a name that of the one who runs the
shell. -/
def State.home? (s : State) (name : NarrowText) : Option NarrowText :=
  if name.isEmpty then s.value? "HOME".toList
  else (homes.find? fun entry => entry.1.toList = name).map fun entry => entry.2.toList

/-- A part of a word in which a tilde in front is replaced.  Its name has to
end at a slash or at the end of the part. -/
def replaceTilde (s : State) (isEnd : Bool) (text : NarrowText) : List (Bool × NarrowText) :=
  match text with
  | '~' :: rest =>
      let name := rest.takeWhile (· ≠ '/')
      let after := rest.dropWhile (· ≠ '/')
      if after.isEmpty && !isEnd then [(false, text)]
      else
        match s.home? name with
        | some home => [(true, home), (false, after)]
        | none => [(false, text)]
  | _ => [(false, text)]

/-- Where tildes are replaced: nowhere, at the beginning of a word, or also
behind each colon. -/
inductive Tildes where
  | never
  | atStart
  | behindColons
  deriving DecidableEq, Repr

/-- Stretches of text with tildes replaced. -/
def replaceTildes (s : State) (tildes : Tildes) (isStart isEnd : Bool) (text : NarrowText) :
    List (Bool × NarrowText) :=
  match tildes with
  | .never => [(false, text)]
  | .atStart => if isStart then replaceTilde s isEnd text else [(false, text)]
  | .behindColons =>
      match Text.stretches ':' text with
      | [] => []
      | [only] => if isStart then replaceTilde s isEnd only else [(false, only)]
      | first :: others =>
          let head := if isStart then replaceTilde s true first else [(false, first)]
          let last := others.getLastD []
          let inner := others.dropLast.flatMap fun part =>
            (false, [':']) :: replaceTilde s true part
          head ++ inner ++ (false, [':']) :: replaceTilde s isEnd last

/-! ## Parameters -/

/-- The name of a parameter in a message. -/
def Parameter.shown : Parameter → NarrowText
  | .variable name => name
  | .argument position => Numeral.ofNat position
  | .arguments false => ['@']
  | .arguments true => ['*']
  | .element name key => name ++ '[' :: key ++ [']']
  | .elements name joined => name ++ (if joined then "[*]" else "[@]").toList
  | .argumentCount => ['#']
  | .lastStatus => ['?']
  | .processNumber => ['$']
  | .lastJob => ['!']
  | .options => ['-']

/-- What stands between arguments that are joined: the first separator. -/
def State.joint (s : State) : NarrowText :=
  match s.value? "IFS".toList with
  | none => [' ']
  | some separators => separators.take 1

/-- How the value of a parameter is used: whether fields are wanted, and
whether it stands between quotes. -/
structure Manner where
  splits : Bool
  quoted : Bool
  deriving DecidableEq, Repr

/-- The text of several values, and whether each of them stays whole. -/
def State.textOfAll (s : State) (manner : Manner) (joined : Bool) (values : List NarrowText) :
    NarrowText × Bool :=
  if manner.splits && !manner.quoted then ([zero].intercalate values, false)
  else if manner.splits && !joined then ([zero].intercalate values, true)
  else if s.extended && !joined then ([' '].intercalate values, false)
  else (s.joint.intercalate values, false)

/-- The values of a parameter that stands for several, and whether they are
joined. -/
def State.several? (s : State) : Parameter → Option (List NarrowText × Bool)
  | .arguments joined => some (s.arguments, joined)
  | .elements name joined => some (s.elementsOf name, joined)
  | _ => none

/-- The values of variables that the shell makes up when they are asked for. -/
def State.madeUp? (s : State) (name : NarrowText) : Option NarrowText :=
  if !s.extended then none
  else
    match String.ofList name with
    | "LINENO" => some (Numeral.ofNat s.line)
    | "RANDOM" => some (Numeral.ofNat ((s.lastNumber * 7919 + s.streams.size * 104729) % 32768))
    | "SECONDS" => some (Numeral.ofNat (s.clock / 1000))
    | "BASHPID" => some (Numeral.ofNat s.number)
    | _ => none

/-- The value of a parameter, if it has one, and whether it consists of values
that stay whole. -/
def State.parameter? (s : State) (manner : Manner) : Parameter → Option (NarrowText × Bool)
  | .variable name =>
      match s.madeUp? name with
      | some value => some (value, false)
      | none => (s.value? name).map fun value => (value, false)
  | .argument 0 => some (s.name, false)
  | .argument (position + 1) => (s.arguments[position]?).map fun value => (value, false)
  | .arguments joined =>
      if s.arguments.isEmpty then none else some (s.textOfAll manner joined s.arguments)
  | .element name key => (s.element? name key).map fun value => (value, false)
  | .elements name joined =>
      let values := s.elementsOf name
      if values.isEmpty then none else some (s.textOfAll manner joined values)
  | .argumentCount => some (Numeral.ofNat s.arguments.length, false)
  | .lastStatus => some (Numeral.ofNat s.status, false)
  | .processNumber => some (Numeral.ofNat s.shellNumber, false)
  | .lastJob => s.lastJob.map fun number => (Numeral.ofNat number, false)
  | .options => some (s.modes.filter Char.isAlpha, false)

/-- Several values are meant. -/
def Parameter.isAll : Parameter → Bool
  | .arguments _ | .elements _ _ => true
  | _ => false

/-- The part of a word that a value gives. -/
def Manner.piece (manner : Manner) (value : NarrowText × Bool) : Piece :=
  if value.2 then .whole value.1
  else .text manner.quoted (manner.splits && !manner.quoted) value.1

/-- What is left of quotes that hold nothing. -/
def Manner.mark (manner : Manner) : List Piece :=
  if manner.quoted then [.text true false []] else []

/-- A value is missing. -/
def Presence.lacks (needed : Presence) : Option (NarrowText × Bool) → Bool
  | none => true
  | some (value, _) => needed = .filled && value.isEmpty

/-- Complain about a parameter without a value if that is not allowed. -/
def Run.demand (parameter : Parameter) : Run Unit := do
  if (← get).isOn 'u' && !parameter.isAll then
    Run.faultIn (parameter.shown ++ ": parameter not set".toList)
      (parameter.shown ++ ": unbound variable".toList)

/-- Give a value to a parameter, which has to be a variable. -/
def Run.assignParameter (parameter : Parameter) (value : NarrowText) : Run Unit :=
  match parameter with
  | .variable name => Run.assign name value
  | other => Run.fault (other.shown ++ ": bad variable name".toList)

/-- The lengths that a match of a pattern at the front of a value can have, the
greatest first.  Without stars there is only one. -/
def matchLengths (pattern : Pattern) (value : NarrowText) : List Nat :=
  if pattern.contains .anyText then ((List.range value.length).map (· + 1)).reverse
  else if pattern.length ≤ value.length then [pattern.length]
  else []

/-- A value with what a pattern matches replaced by a text; at most `limit`
times. -/
def replaceMatches (everywhere : Bool) (pattern : Pattern) (put : NarrowText) :
    Nat → NarrowText → NarrowText
  | 0, value => value
  | _, [] => []
  | limit + 1, c :: rest =>
      let value := c :: rest
      match pattern.firstLength? value (matchLengths pattern value) with
      | some length =>
          put ++ (if everywhere then replaceMatches true pattern put limit (value.drop length)
            else value.drop length)
      | none => c :: replaceMatches everywhere pattern put limit rest

/-- A value with a match of a pattern replaced at a place. -/
def ReplacedPlace.replace (place : ReplacedPlace) (pattern : Pattern) (put value : NarrowText) :
    NarrowText :=
  match place with
  | .first => replaceMatches false pattern put value.length value
  | .everywhere => replaceMatches true pattern put value.length value
  | .front =>
      match pattern.firstLength? value ((List.range (value.length + 1))).reverse with
      | some length => put ++ value.drop length
      | none => value
  | .back =>
      let starts := List.range (value.length + 1)
      match starts.find? fun start => pattern.accepts (value.drop start) with
      | some start => value.take start ++ put
      | none => value

/-- A value with letters changed that a pattern matches; an empty one matches
all. -/
def changeLetters (upper all : Bool) (pattern : Pattern) (value : NarrowText) : NarrowText :=
  let change (c : Char) : Char :=
    if pattern.isEmpty || pattern.accepts [c] then (if upper then c.toUpper else c.toLower) else c
  if all then value.map change
  else
    match value with
    | [] => []
    | c :: rest => change c :: rest

/-- A value as a word from which the shell reads it back. -/
def requoted (value : NarrowText) : NarrowText :=
  '\'' :: value.flatMap (fun c => if c = '\'' then "'\\''".toList else [c]) ++ ['\'']

/-- A part of some values from an offset on; a negative one counts from the
end, and so does a negative length. -/
def slice {α : Type} (values : List α) (offset : Int) (length : Option Int) : Option (List α) :=
  let size : Int := values.length
  let start := if offset < 0 then size + offset else offset
  if start < 0 ∨ size < start then some []
  else
    let rest := values.drop start.toNat
    match length with
    | none => some rest
    | some length =>
        if 0 ≤ length then some (rest.take length.toNat)
        else if 0 ≤ (rest.length : Int) + length then
          some (rest.take ((rest.length : Int) + length).toNat)
        else none

/-- The parameter that a text names. -/
def parameterNamed? (text : NarrowText) : Option Parameter :=
  if isName text then some (.variable text)
  else
    match Numeral.natural? text with
    | some position => some (.argument position)
    | none =>
        match Run.splitIndex text with
        | (name, some ['@']) => some (.elements name false)
        | (name, some ['*']) => some (.elements name true)
        | (name, some key) => if isName name then some (.element name key) else none
        | _ => none

/-- A value without what a pattern matches at one of its ends. -/
def TrimmedEnd.trim (trimmed : TrimmedEnd) (longest : Bool) (pattern : Pattern)
    (value : NarrowText) : NarrowText :=
  match trimmed with
  | .front => pattern.trimFront longest value
  | .back => pattern.trimBack longest value

/-! ## Words -/

section

variable (outputOf : Command → Run NarrowText)

/-- The least descriptor of a feed. -/
def firstFeed : Nat := 60

/-- The output of commands without zeros and without line ends at its end. -/
def substituted (text : NarrowText) : NarrowText :=
  ((text.filter (· ≠ zero)).reverse.dropWhile (· = '\n')).reverse

/-- The parts that the values of a parameter give when each is changed. -/
def changeAll (manner : Manner) (parameter : Parameter) (change : NarrowText → NarrowText) :
    Run (List Piece) := do
  let s ← get
  match s.several? parameter with
  | some (values, joined) =>
      if values.isEmpty then return []
      else return [manner.piece (s.textOfAll manner joined (values.map change))]
  | none =>
      match s.parameter? manner parameter with
      | some (value, _) => return manner.mark ++ [manner.piece (change value, false)]
      | none => do
          Run.demand parameter
          return manner.mark

mutual

/-- The parts of an expanded word.  `splits` says that fields are wanted, and
`isOpen` that also text that is written out is split. -/
def expandWord (splits isOpen : Bool) (tildes : Tildes) (isStart : Bool) :
    List Segment → Run (List Piece)
  | [] => return []
  | segment :: rest => do
      let first ← expandSegment splits isOpen tildes isStart rest.isEmpty segment
      let others ← expandWord splits isOpen tildes false rest
      return first ++ others

/-- The parts of an expanded segment. -/
def expandSegment (splits isOpen : Bool) (tildes : Tildes) (isStart isEnd : Bool) :
    Segment → Run (List Piece)
  | .literal true text => return [.text true false text]
  | .element quoted name index use => do
      let text := Piece.joined (← expandWord false false .never false index)
      let key ← Run.elementKey name text
      expandUse ⟨splits, quoted⟩ (.element name key) use
  | .keys quoted name joined => do
      let s ← get
      let manner : Manner := ⟨splits, quoted⟩
      let keys := s.keysOf name
      return if keys.isEmpty then [] else [manner.piece (s.textOfAll manner joined keys)]
  | .named quoted parameter use => do
      let manner : Manner := ⟨splits, quoted⟩
      let target := (((← get).parameter? manner parameter).map Prod.fst).getD []
      match parameterNamed? target with
      | some parameter => expandUse manner parameter use
      | none => Run.fault (target ++ ": invalid variable name".toList)
  | .feed body => do
      let (number, process) := (← get).toProcess.add (.source (← outputOf body))
      let descriptor := ((List.range 4).map (firstFeed + 3 - ·)).find? fun descriptor =>
        !process.descriptors.any fun binding => binding.1 = descriptor
      let descriptor := descriptor.getD firstFeed
      modify fun s => s.withProcess (process.bind descriptor number)
      return [.text true false ("/dev/fd/".toList ++ Numeral.ofNat descriptor)]
  | .literal false text => do
      let stretches := replaceTildes (← get) tildes isStart isEnd text
      return stretches.map fun (quoted, text) => .text quoted (splits && isOpen && !quoted) text
  | .malformed => Run.faultIn "Bad substitution".toList "bad substitution".toList
  | .substitution quoted body => do
      return [Manner.piece ⟨splits, quoted⟩ (substituted (← outputOf body), false)]
  | .arithmetic quoted expression => do
      let pieces ← expandWord false false .never false expression
      let value ← Run.calculate (Piece.joined pieces)
      return [Manner.piece ⟨splits, quoted⟩ (Numeral.ofInt value, false)]
  | .parameter quoted parameter use => expandUse ⟨splits, quoted⟩ parameter use

/-- The parts that the use of a parameter gives. -/
def expandUse (manner : Manner) (parameter : Parameter) : Use → Run (List Piece)
  | .value => do
      match (← get).parameter? manner parameter with
      | some value => return [manner.piece value]
      | none => do
          Run.demand parameter
          return if parameter.isAll then [] else manner.mark
  | .length => do
      let s ← get
      match (if s.extended then s.several? parameter else none) with
      | some (values, _) => return [manner.piece (Numeral.ofNat values.length, false)]
      | none => pure ()
      match s.parameter? manner parameter with
      | some value => return [manner.piece (Numeral.ofNat value.1.length, false)]
      | none => do
          Run.demand parameter
          return [manner.piece (['0'], false)]
  | .fallback needed word => do
      let value := (← get).parameter? manner parameter
      if needed.lacks value then
        let pieces ← expandWord manner.splits true .atStart true word
        return manner.mark ++ pieces
      else return manner.mark ++ (value.map manner.piece).toList
  | .alternative needed word => do
      let value := (← get).parameter? manner parameter
      if needed.lacks value then return manner.mark
      else do
        let pieces ← expandWord manner.splits true .atStart true word
        return manner.mark ++ pieces
  | .assignment needed word => do
      let value := (← get).parameter? manner parameter
      if needed.lacks value then
        let text := Piece.joined (← expandWord false false .atStart true word)
        Run.assignParameter parameter text
        return [manner.piece (text, false)]
      else return manner.mark ++ (value.map manner.piece).toList
  | .complaint needed word => do
      let value := (← get).parameter? manner parameter
      if needed.lacks value then
        let text := Piece.joined (← expandWord false false .atStart true word)
        let standard :=
          if (← get).extended then
            (if needed = .filled then "parameter null or not set" else "parameter not set").toList
          else "parameter not set".toList ++ if needed = .filled then " or null".toList else []
        Run.fault (parameter.shown ++ ": ".toList ++ if word.isEmpty then standard else text)
      else return manner.mark ++ (value.map manner.piece).toList
  | .cut offset length => do
      let first ← Run.calculate (Piece.joined (← expandWord false false .never false offset))
      let count ←
        match length with
        | none => pure none
        | some length => do
            let text := Piece.joined (← expandWord false false .never false length)
            pure (some (← Run.calculate text))
      let s ← get
      match s.several? parameter with
      | some (values, joined) => do
          let values :=
            match parameter with
            | .arguments _ => s.name :: values
            | _ => values
          match slice values first count with
          | some [] => return []
          | some part => return [manner.piece (s.textOfAll manner joined part)]
          | none => Run.slip "substring expression < 0".toList
      | none =>
          match s.parameter? manner parameter with
          | none => do
              Run.demand parameter
              return manner.mark
          | some (value, _) =>
              match slice value first count with
              | some part => return manner.mark ++ [manner.piece (part, false)]
              | none => Run.slip "substring expression < 0".toList
  | .replacement place pattern word => do
      let pieces ← expandWord false false .atStart true pattern
      let put ← expandWord false false .atStart true word
      let pattern := Pattern.read true (Piece.marked pieces)
      if pattern.isEmpty && (place = .first || place = .everywhere) then
        changeAll manner parameter id
      else changeAll manner parameter (place.replace pattern (Piece.joined put))
  | .letters upper all word => do
      let pieces ← expandWord false false .atStart true word
      let pattern := Pattern.read true (Piece.marked pieces)
      changeAll manner parameter (changeLetters upper all pattern)
  | .requoted => changeAll manner parameter requoted
  | .trim trimmed longest word => do
      if (← get).extended then
        let pieces ← expandWord false false .atStart true word
        let pattern := Pattern.read true (Piece.marked pieces)
        return ← changeAll manner parameter (trimmed.trim longest pattern)
      match (← get).parameter? manner parameter with
      | none => do
          Run.demand parameter
          return manner.mark
      | some (value, whole) => do
          let pieces ← expandWord false false .atStart true word
          let pattern := Pattern.read false (Piece.marked pieces)
          return manner.mark ++ [manner.piece (trimmed.trim longest pattern value, whole)]

end

/-- The text of a word that is one field. -/
def expandText (tildes : Tildes) (word : Word) : Run NarrowText := do
  return Piece.joined (← expandWord outputOf false false tildes true word)

/-- The pattern that a word spells. -/
def expandPattern (word : Word) : Run Pattern := do
  let pieces ← expandWord outputOf false false .atStart true word
  return Pattern.read (← get).extended (Piece.marked pieces)

/-- The fields that a word without alternatives is expanded to. -/
def expandSingle (word : Word) : Run (List NarrowText) := do
  let pieces ← expandWord outputOf true false .atStart true word
  let s ← get
  let fields := Piece.fields (s.value? "IFS".toList) pieces
  let names (field : Field) : List NarrowText :=
    let found := field.names s.files
    if s.hasSetting "nullglob" && field.mayMatch && found = [field.text] &&
        !s.files.exists? (NarrowText.toString field.text) then []
    else found
  return if s.isOn 'f' then fields.map Field.text else fields.flatMap names

/-- The fields that a word is expanded to. -/
def expandOne (word : Word) : Run (List NarrowText) := do
  if (← get).extended then
    return (← (Word.alternatives word).mapM (expandSingle outputOf)).flatten
  else expandSingle outputOf word

/-- The fields that words are expanded to. -/
def expandFields (words : List Word) : Run (List NarrowText) := do
  let fields ← words.mapM (expandOne outputOf)
  return fields.flatten

end

end Shell
end SyntaxCensus
