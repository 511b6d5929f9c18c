import SyntaxCensus.Host.Process.Changes
import SyntaxCensus.Host.Text.Narrow
import SyntaxCensus.Process.Basic

/-!
# Running processes

What a running process works on: the files, the streams that are open, and the
numbers of its descriptors by which it knows them.  Streams are shared: a
process that is started reads on where its parent has stopped.

Main definitions:

- `Stream`: where text is read from and written to.
- `Process`: what a running process works on.
- `Process.write`, `Process.left`, `Process.take`: writing and reading.
- `Process.opened`: a stream for a path.
-/

namespace SyntaxCensus

/-- Where text is read from and written to.  Text on its way to a reader is
kept in pieces, the last one first. -/
inductive Stream where
  | source (left : NarrowText)
  | sink (pieces : List NarrowText)
  | file (location : List String) (position : Nat) (atEnd readable writable : Bool)
  | directory
  | nowhere
  | zeros
  | full
  deriving Inhabited

namespace Stream

/-- The stream of text that is there to be read. -/
def ofText (text : NarrowText) : Stream :=
  .source text

/-- The text that was written to a stream. -/
def written : Stream → NarrowText
  | .sink pieces => pieces.reverse.flatten
  | _ => []

/-- The text that nobody has read. -/
def unread : Stream → NarrowText
  | .source left => left
  | _ => []

end Stream

/-- What a running process works on. -/
structure Process where
  files : FileSystem
  streams : Array Stream := #[]
  descriptors : List (Nat × Nat) := []
  environment : List (NarrowText × NarrowText) := []
  number : Nat := 1
  parent : Nat := 0
  lastNumber : Nat := 1
  signals : List (Nat × Nat) := []
  clock : Nat := 0

namespace Process

/-! ## Descriptors -/

/-- The stream that a descriptor is bound to, with its number. -/
def stream? (s : Process) (descriptor : Nat) : Option (Nat × Stream) :=
  match s.descriptors.find? fun binding => binding.1 = descriptor with
  | none => none
  | some (_, number) => (s.streams[number]?).map fun stream => (number, stream)

/-- Open a stream, and tell its number. -/
def add (s : Process) (stream : Stream) : Nat × Process :=
  (s.streams.size, { s with streams := s.streams.push stream })

/-- Put another stream under a number. -/
def change (s : Process) (number : Nat) (stream : Stream) : Process :=
  { s with streams := s.streams.setIfInBounds number stream }

/-- The process without a descriptor. -/
def close (s : Process) (descriptor : Nat) : Process :=
  { s with descriptors := s.descriptors.filter fun binding => binding.1 ≠ descriptor }

/-- Bind a descriptor to a stream. -/
def bind (s : Process) (descriptor number : Nat) : Process :=
  { s with
    descriptors :=
      (descriptor, number) :: s.descriptors.filter fun binding => binding.1 ≠ descriptor }

/-- Bind a descriptor to a new stream. -/
def bindTo (s : Process) (descriptor : Nat) (stream : Stream) : Process :=
  let (number, s) := s.add stream
  s.bind descriptor number

/-- The text that was written to a stream. -/
def writtenTo (s : Process) (number : Nat) : NarrowText :=
  ((s.streams[number]?).getD default).written

/-! ## Writing -/

/-- A text with another one put over it from a position on.  What lies between
the end of the text and the position is filled with zeros. -/
def overwrite (text : List UInt8) (position : Nat) (added : List UInt8) : List UInt8 :=
  let before := text.take position
  before ++ List.replicate (position - before.length) 0 ++ added ++
    text.drop (position + added.length)

/-- Write text to a stream. -/
def writeTo (s : Process) (number : Nat) (stream : Stream) (text : NarrowText) :
    Option SystemFault × Process :=
  match stream with
  | .sink pieces =>
      let streams := s.streams.setIfInBounds number default
      (none, { s with streams := streams.setIfInBounds number (.sink (text :: pieces)) })
  | .nowhere | .zeros => (none, s)
  | .full => (if text.isEmpty then none else some .noSpace, s)
  | .source _ | .directory => (some .notOpen, s)
  | .file location position atEnd readable writable =>
      if !writable then (some .notOpen, s)
      else
        let content := s.files.contentAt location
        let added := NarrowText.toOctets text
        let start := if atEnd then content.length else position
        let files :=
          if start = content.length then s.files.appendAt location added
          else s.files.writeAt location (overwrite content start added)
        (none, { s with files }.change number
          (.file location (start + added.length) atEnd readable writable))

/-- Write text on a descriptor, and tell why that is not possible. -/
def write? (s : Process) (descriptor : Nat) (text : NarrowText) :
    Option SystemFault × Process :=
  match s.stream? descriptor with
  | none => (some .notOpen, s)
  | some (number, stream) => s.writeTo number stream text

/-- Write text on a descriptor as far as that is possible. -/
def write (s : Process) (descriptor : Nat) (text : NarrowText) : Process :=
  (s.write? descriptor text).2

/-- Write text on the output. -/
def print (s : Process) (text : NarrowText) : Process :=
  s.write 1 text

/-- Write a line of diagnostics. -/
def complain (s : Process) (message : NarrowText) : Process :=
  s.write 2 (message ++ ['\n'])

/-! ## Reading -/

/-- The octets of zeros that are read at a time. -/
def zeroBlock : Nat := 131072

/-- The text that can be read from a stream. -/
def leftOf (s : Process) : Stream → Except SystemFault NarrowText
  | .source left => .ok left
  | .nowhere => .ok []
  | .zeros | .full => .ok (List.replicate zeroBlock (Char.ofNat 0))
  | .directory => .error .isDirectory
  | .sink _ => .error .notOpen
  | .file location position _ readable _ =>
      if readable then
        .ok (NarrowText.ofOctets ((s.files.contentAt location).drop position))
      else .error .notOpen

/-- The text that can be read from a descriptor. -/
def left (s : Process) (descriptor : Nat) : Except SystemFault NarrowText :=
  match s.stream? descriptor with
  | none => .error .notOpen
  | some (_, stream) => s.leftOf stream

/-- Pass a number of characters that can be read from a descriptor. -/
def skip (s : Process) (descriptor count : Nat) : Process :=
  match s.stream? descriptor with
  | some (number, .source left) => s.change number (.source (left.drop count))
  | some (number, .file location position atEnd readable writable) =>
      let size := (s.files.contentAt location).length
      s.change number (.file location (max position (min size (position + count)))
        atEnd readable writable)
  | _ => s

/-- Take all text that can be read from a descriptor. -/
def takeAll (s : Process) (descriptor : Nat) : Except SystemFault NarrowText × Process :=
  match s.left descriptor with
  | .ok text => (.ok text, s.skip descriptor text.length)
  | .error fault => (.error fault, s)

/-! ## Opening -/

/-- How a file is opened. -/
inductive OpeningMode where
  | read
  | replace
  | extend
  | keep
  deriving DecidableEq, Repr

/-- The streams that are no files, by the places where they are found. -/
def device? (s : Process) : List String → Option (Except SystemFault (Nat × Process))
  | ["dev", "null"] => some (.ok (s.add .nowhere))
  | ["dev", "zero"] => some (.ok (s.add .zeros))
  | ["dev", "full"] => some (.ok (s.add .full))
  | ["dev", "tty"] => some (.error .noDevice)
  | ["proc", "self", "fd", digits] =>
      match digits.toNat?.bind s.stream? with
      | none => some (.error .notFound)
      | some (_, .file _ _ _ _ _) => none
      | some (number, _) => some (.ok (number, s))
  | _ => none

/-- The location of the file behind a place that names a descriptor. -/
def behind (s : Process) (location : List String) : List String :=
  match location with
  | ["proc", "self", "fd", digits] =>
      match digits.toNat?.bind s.stream? with
      | some (_, .file location _ _ _ _) => location
      | _ => location
  | _ => location

/-- A stream for reading from a path. -/
def openForReading (s : Process) (path : String) : Except SystemFault (Nat × Process) :=
  match s.files.find path with
  | .error fault => .error fault
  | .ok (location, entry) =>
      match s.device? location with
      | some found => found
      | none =>
          match entry with
          | .directory _ => .ok (s.add .directory)
          | _ => .ok (s.add (.file (s.behind location) 0 false true false))

/-- A stream for writing to a path. -/
def openForWriting (s : Process) (mode : OpeningMode) (path : String) :
    Except SystemFault (Nat × Process) :=
  match s.files.findForWriting path with
  | .error fault => .error fault
  | .ok location =>
      match s.device? location with
      | some found => found
      | none =>
          let location := s.behind location
          let content := if mode = .replace then [] else s.files.contentAt location
          let s := { s with files := s.files.writeAt location content }
          .ok (s.add (.file location 0 (mode = .extend) (mode = .keep) true))

/-- A stream for a path. -/
def opened (s : Process) (mode : OpeningMode) (path : NarrowText) :
    Except SystemFault (Nat × Process) :=
  match mode with
  | .read => s.openForReading (NarrowText.toString path)
  | mode => s.openForWriting mode (NarrowText.toString path)

/-- The text of a file. -/
def readFile (s : Process) (path : NarrowText) : Except SystemFault NarrowText :=
  match s.opened .read path with
  | .error fault => .error fault
  | .ok (number, after) => after.leftOf ((after.streams[number]?).getD default)

/-! ## Other processes -/

/-- The value of a variable that programs are started with. -/
def bound? (s : Process) (name : String) : Option NarrowText :=
  (s.environment.find? fun binding => binding.1 = name.toList).map Prod.snd

/-- A process that is started by another one. -/
def child (s : Process) : Process :=
  { s with number := s.lastNumber + 1, parent := s.number, lastNumber := s.lastNumber + 1 }

/-- Go on after another process: what it did to files and streams stays. -/
def rejoin (s after : Process) : Process :=
  { s with
    files := { after.files with working := s.files.working }
    streams := after.streams
    lastNumber := after.lastNumber
    signals := after.signals
    clock := after.clock }

/-- Send a signal to a process. -/
def signal (s : Process) (process signal : Nat) : Process :=
  { s with signals := s.signals ++ [(process, signal)] }

/-- Take the next signal that was sent to this process. -/
def takeSignal? (s : Process) : Option (Nat × Process) :=
  match s.signals.find? fun sent => sent.1 = s.number with
  | none => none
  | some sent => some (sent.2, { s with signals := s.signals.erase sent })

end Process
end SyntaxCensus
