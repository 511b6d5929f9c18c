import SyntaxCensus.Host.Tools.Records.Evaluation
import SyntaxCensus.Host.Tools.Records.Reader

/-!
# Running programs on records from a command line

The program is the first argument, or the content of files that options name;
the other arguments are the files that records are read from.

Main definitions:

- `Tools.awk`: the tool.
-/

namespace SyntaxCensus
namespace Records

/-- What the arguments ask for: files with programs, the mark between fields,
values of variables, and other arguments. -/
structure Request where
  files : List NarrowText := []
  mark : Option NarrowText := none
  values : List NarrowText := []
  operands : List NarrowText := []

/-- Why arguments cannot be understood. -/
inductive RequestFault where
  | lacksValue (letter : Char)
  | unknown (letter : Char)

/-- Read arguments up to the first one that is no option. -/
def readRequest (request : Request) : List NarrowText → Except RequestFault Request
  | [] => .ok request
  | word :: rest =>
      match word with
      | '-' :: '-' :: [] => .ok { request with operands := rest }
      | '-' :: letter :: inner =>
          let give (value : NarrowText) : Except RequestFault Request :=
            match letter with
            | 'f' => .ok { request with files := request.files ++ [value] }
            | 'F' => .ok { request with mark := some value }
            | 'v' => .ok { request with values := request.values ++ [value] }
            | 'W' => .ok request
            | other => .error (.unknown other)
          if inner.isEmpty then
            match rest with
            | [] =>
                if "fFvW".toList.contains letter then .error (.lacksValue letter)
                else .error (.unknown letter)
            | value :: more =>
                match give value with
                | .ok request => readRequest request more
                | .error fault => .error fault
          else
            match give inner with
            | .ok request => readRequest request rest
            | .error fault => .error fault
      | _ => .ok { request with operands := word :: rest }

/-- The table of an environment. -/
def environmentTable (s : Process) : Table :=
  s.environment.foldl (fun table (name, value) => table.put (.text name) (.input value)) {}

/-- The table of arguments, whose first key is zero. -/
def argumentTable (words : List NarrowText) : Table :=
  words.zipIdx.foldl (fun table (word, index) => table.put (.number index) (.input word)) {}

/-- What a variable with a meaning of its own is bound to at first. -/
def initialSlot (count : Nat) : String → Slot
  | "NR" | "FNR" | "RSTART" => .cell (.ofNat 0)
  | "RLENGTH" => .cell (.number (FloatingNumber.ofInt (-1)))
  | "FS" | "OFS" => .cell (.text [' '])
  | "ORS" | "RS" => .cell (.text ['\n'])
  | "SUBSEP" => .cell (.text ['\x1c'])
  | "CONVFMT" | "OFMT" => .cell (.text "%.6g".toList)
  | "ENVIRON" => .table 0
  | "ARGV" => .table 1
  | "ARGC" => .cell (.ofNat count)
  | _ => .free

/-- The machine at the beginning of a run. -/
def initialMachine (program : Program) (tool : NarrowText) (operands : List NarrowText)
    (process : Process) : Machine :=
  let words := tool :: operands
  { process
    slots := program.names.map fun name => initialSlot words.length (String.ofList name)
    tables := #[environmentTable process, argumentTable words]
    inside := Array.replicate program.ranges false }

/-- Where the records are, as complaints tell it. -/
def whereabouts : Act NarrowText := do
  let file ← Act.specialText .fileName
  let inFile ← Act.specialText .numberInFile
  let number ← Act.specialText .recordNumber
  return "\n\tFILENAME=\"".toList ++ file ++ "\" FNR=".toList ++ inFile ++ " NR=".toList ++ number

/-- Run a program to its end, and tell its status or a complaint.  What was
printed before a fault is written behind the complaint. -/
def finishRun (setting : RunSetting) (work : Act Unit) (m : Machine) :
    Except NarrowText Nat × Machine :=
  let (outcome, after) :=
    ((do work; runProgram setting : Act Nat).run m : Except Leap Nat × Machine)
  match outcome with
  | .ok status => (.ok status, after)
  | .error (.fault message tells) =>
      if tells then
        let (place, after) := (whereabouts.run after : Except Leap NarrowText × Machine)
        let place := match place with
          | .ok text => text
          | .error _ => []
        (.error ("run time error: ".toList ++ message ++ place), after)
      else (.error message, after)
  | .error _ => (.ok 0, after)

end Records

namespace Tools

open Records

/-- Run a program on records. -/
def awk : Tool := fun start tool arguments => do
  let called := (tool.reverse.takeWhile (· ≠ '/')).reverse
  let fail {α : Type} (message : NarrowText) : Work α := Work.fail called 2 message
  match readRequest {} arguments with
  | .error (.lacksValue letter) =>
      fail ("option -".toList ++ letter :: " lacks argument".toList)
  | .error (.unknown letter) => fail ("not an option: -".toList ++ [letter])
  | .ok request => do
      let (text, operands) ←
        match request.files, request.operands with
        | [], [] => do
            Work.print tool ("Usage: mawk [Options] [Program] [file ...]\n".toList)
            Work.exit 0
        | [], text :: operands => pure (text, operands)
        | files, operands => do
            let mut whole : NarrowText := []
            for name in files do
              match ← Work.readNamed name with
              | .ok text => whole := whole ++ text ++ ['\n']
              | .error fault =>
                  fail ("cannot open \"".toList ++ name ++ "\" (".toList ++
                    fault.description.toList ++ [')'])
            pure (whole, operands)
      match readProgram text with
      | .error fault => fail fault.message
      | .ok program => do
          let setting : RunSetting := { start, tool := called, program }
          let prepare : Act Unit := do
            match request.mark with
            | some mark => assignNamed program "FS".toList mark
            | none => pure ()
            for value in request.values do
              match Act.assignment? value with
              | some (name, text) => assignNamed program name text
              | none => pure ()
          let (outcome, m) :=
            finishRun setting prepare (initialMachine program called operands (← get))
          set m.process
          match outcome with
          | .ok status => return status
          | .error message => do
              Work.complain called message
              let (_, m) := (Act.flush.run { m with process := ← get } : Except Leap Unit × Machine)
              set m.process
              return 2

end Tools
end SyntaxCensus
