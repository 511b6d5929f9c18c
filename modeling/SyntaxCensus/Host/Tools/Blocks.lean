import SyntaxCensus.Host.Tools.Entries

/-!
# Copying blocks

The tool that copies an input to an output in blocks, and counts them.

Main definitions:

- `Blocks.CopyRequest`: what is copied, and how.
- `Tools.dd`: the tool.
-/

namespace SyntaxCensus
namespace Tools

namespace Blocks

/-- What is copied, and how. -/
structure CopyRequest where
  input : Option NarrowText := none
  output : Option NarrowText := none
  inputSize : Nat := 512
  outputSize : Nat := 512
  count : Option Nat := none
  skipped : Nat := 0
  sought : Nat := 0
  conversions : List NarrowText := []
  inputFlags : List NarrowText := []
  outputFlags : List NarrowText := []
  status : NarrowText := []

/-- A conversion is asked for. -/
def CopyRequest.converts (request : CopyRequest) (name : String) : Bool :=
  request.conversions.contains name.toList

/-- The units that letters behind a number stand for. -/
def unit? (letters : NarrowText) : Option Nat :=
  match String.ofList letters with
  | "" | "c" | "B" => some 1
  | "w" => some 2
  | "b" => some 512
  | _ => sizeOf? ('1' :: letters)

/-- The number that a text spells: digits, a unit, and perhaps an `x` before
another one. -/
def number? : Nat → NarrowText → Option Nat
  | 0, _ => none
  | limit + 1, text =>
      match Numeral.decimal? text with
      | none => none
      | some (value, rest) =>
          let letters := rest.takeWhile (· ≠ 'x')
          match unit? letters, rest.dropWhile (· ≠ 'x') with
          | some unit, [] => some (value * unit)
          | some unit, _ :: more => (number? limit more).map fun other => value * unit * other
          | none, _ => none

/-- The number of an operand. -/
def number (tool text : NarrowText) : Work Nat :=
  match number? (text.length + 1) text with
  | some value => return value
  | none => Work.fail tool 1 ("invalid number: ".toList ++ Work.quoted text)

/-- The size of a block, which must not be nothing. -/
def blockSize (tool text : NarrowText) : Work Nat := do
  let size ← number tool text
  if size = 0 then Work.fail tool 1 ("invalid number: ".toList ++ Work.quoted text)
  return size

/-- Take an operand into account. -/
def addOperand (tool : NarrowText) (request : CopyRequest) (word : NarrowText) :
    Work CopyRequest := do
  let name := word.takeWhile (· ≠ '=')
  let value := (word.dropWhile (· ≠ '=')).tail
  let list := Text.stretches ',' value
  match String.ofList name with
  | "if" => return { request with input := some value }
  | "of" => return { request with output := some value }
  | "bs" => do
      let size ← blockSize tool value
      return { request with inputSize := size, outputSize := size }
  | "ibs" => return { request with inputSize := ← blockSize tool value }
  | "obs" => return { request with outputSize := ← blockSize tool value }
  | "count" => return { request with count := some (← number tool value) }
  | "skip" | "iseek" => return { request with skipped := ← number tool value }
  | "seek" | "oseek" => return { request with sought := ← number tool value }
  | "conv" => return { request with conversions := request.conversions ++ list }
  | "iflag" => return { request with inputFlags := request.inputFlags ++ list }
  | "oflag" => return { request with outputFlags := request.outputFlags ++ list }
  | "status" => return { request with status := value }
  | _ => misuse tool 1 ("unrecognized operand ".toList ++ Work.quoted word)

/-- Pairs of octets with their places exchanged. -/
def exchanged : NarrowText → NarrowText
  | a :: b :: rest => b :: a :: exchanged rest
  | text => text

/-- A text as it is converted. -/
def CopyRequest.convert (request : CopyRequest) (text : NarrowText) : NarrowText :=
  let text := if request.converts "swab" then exchanged text else text
  let text := if request.converts "ucase" then text.map Char.toUpper else text
  let text := if request.converts "lcase" then text.map Char.toLower else text
  if request.converts "sync" then
    let missing := (request.inputSize - text.length % request.inputSize) % request.inputSize
    text ++ List.replicate missing (Char.ofNat 0)
  else text

/-- How many octets are passed by and how many are copied at most. -/
def CopyRequest.extent (request : CopyRequest) : Nat × Option Nat :=
  let inOctets (name : String) := request.inputFlags.contains name.toList
  (if inOctets "skip_bytes" then request.skipped else request.skipped * request.inputSize,
    request.count.map fun count =>
      if inOctets "count_bytes" then count else count * request.inputSize)

/-- The part of a stream that is copied, and the process after it is read. -/
def CopyRequest.take (request : CopyRequest) (number : Nat) (s : Process) :
    Except SystemFault NarrowText :=
  let (skipped, limit) := request.extent
  let stream := (s.streams[number]?).getD default
  match stream, limit with
  | .zeros, some limit => .ok (List.replicate limit (Char.ofNat 0))
  | _, _ =>
      match s.leftOf stream with
      | .error fault => .error fault
      | .ok text =>
          let rest := text.drop skipped
          .ok (match limit with
          | some limit => rest.take limit
          | none => rest)

/-- The number of whole blocks and of parts of blocks of a text. -/
def records (size length : Nat) : NarrowText :=
  Numeral.ofNat (length / size) ++ '+' :: Numeral.ofNat (if length % size = 0 then 0 else 1)

/-- Say how much was copied. -/
def report (request : CopyRequest) (read written : Nat) : Work Unit := do
  if request.status ≠ "none".toList then
    Work.printDiagnostic (records request.inputSize read ++ " records in".toList)
    Work.printDiagnostic (records request.outputSize written ++ " records out".toList)
    if request.status ≠ "noxfer".toList then
      let noun := if written = 1 then " byte" else " bytes"
      Work.printDiagnostic (Numeral.ofNat written ++ noun.toList ++
        " copied, 0.0001 s, 1.0 MB/s".toList)

/-- Put text into a file from a place on. -/
def putInto (request : CopyRequest) (location : List String) (text : NarrowText) : Work Unit := do
  let s ← get
  let place :=
    if request.outputFlags.contains "seek_bytes".toList then request.sought
    else request.sought * request.outputSize
  let content := s.files.contentAt location
  let place := if request.outputFlags.contains "append".toList then content.length else place
  let kept :=
    if request.converts "notrunc" || request.outputFlags.contains "append".toList then content
    else content.take place
  setFiles (s.files.writeAt location
    (Process.overwrite kept place (NarrowText.toOctets text)))

/-- Complain about a file that cannot be opened. -/
def cannotOpen {α : Type} (tool path : NarrowText) (fault : SystemFault) : Work α :=
  Work.fail tool 1 ("failed to open ".toList ++ Work.quotedName path ++ ": ".toList ++
    fault.description.toList)

end Blocks

open Blocks in
/-- Copy an input to an output in blocks. -/
def dd : Tool := fun _ tool arguments => do
  let mut request : CopyRequest := {}
  for word in arguments.filter (· ≠ ['-', '-']) do
    request ← addOperand tool request word
  let source ←
    match request.input with
    | none => pure ((← get).stream? 0 |>.map Prod.fst)
    | some path =>
        match (← get).opened .read path with
        | .ok (number, s) => do
            set s
            pure (some number)
        | .error fault => cannotOpen tool path fault
  let target ←
    match request.output with
    | none => pure none
    | some path =>
        match (← get).opened .keep path with
        | .ok (number, s) => do
            set s
            pure (some number)
        | .error fault => cannotOpen tool path fault
  let text ←
    match source with
    | none => Work.fail tool 1 "failed to open 'standard input': Bad file descriptor".toList
    | some number =>
        match request.take number (← get) with
        | .ok text => pure text
        | .error fault => do
            Work.complain tool ("error reading ".toList ++
              Work.quotedName (request.input.getD "standard input".toList) ++ ": ".toList ++
              fault.description.toList)
            report request 0 0
            Work.exit 1
  if request.input.isNone then
    Work.onProcess fun s => s.skip 0 (request.extent.1 + text.length)
  let converted := request.convert text
  match target with
  | none => Work.print tool converted
  | some number =>
      match (← get).streams[number]? with
      | some (.file location _ _ _ _) => putInto request location converted
      | some stream => do
          let (fault, s) := (← get).writeTo number stream converted
          set s
          match fault with
          | none => pure ()
          | some fault =>
              Work.fail tool 1 ("error writing ".toList ++
                Work.quotedName (request.output.getD []) ++ ": ".toList ++
                fault.description.toList)
      | none => pure ()
  report request text.length converted.length
  return 0

end Tools
end SyntaxCensus
