import SyntaxCensus.Host.Process.Running
import SyntaxCensus.Host.Text.Numeral

/-!
# Conditions

What can be tested of texts, numbers and files, and the words by which the
tests are known.

Main definitions:

- `Process.kind?`: what a path leads to.
- `Testing.Single`, `Testing.Double`: tests of one text and of two texts.
- `Testing.single?`, `Testing.double?`: the tests that words name.
-/

namespace SyntaxCensus

/-- What a file is. -/
inductive FileKind where
  | regular
  | directory
  | link
  | device
  deriving DecidableEq, Repr

/-- A place that is no file but a device. -/
def isDevice : List String → Bool
  | ["dev", name] => ["null", "zero", "full", "tty", "random", "urandom"].contains name
  | _ => false

namespace Process

/-- What a path leads to. -/
def kind? (s : Process) (path : NarrowText) : Option FileKind :=
  match s.files.find (NarrowText.toString path) with
  | .error _ => none
  | .ok (location, entry) =>
      if isDevice location then some .device
      else if entry.isDirectory then some .directory
      else some .regular

/-- What a path names, even if that is a link. -/
def selfKind? (s : Process) (path : NarrowText) : Option FileKind :=
  match s.files.findSelf (NarrowText.toString path) with
  | .ok (_, .link _) => some .link
  | _ => s.kind? path

/-- A path leads to a file that holds something. -/
def isFilled (s : Process) (path : NarrowText) : Bool :=
  match s.files.find (NarrowText.toString path) with
  | .ok (location, .file octets _) => !isDevice location && !octets.isEmpty
  | .ok (_, .directory _) => true
  | _ => false

/-- A path leads to something that may be started or entered. -/
def mayStart (s : Process) (path : NarrowText) : Bool :=
  match s.files.find (NarrowText.toString path) with
  | .ok (_, .file _ executable) => executable
  | .ok (_, .directory _) => true
  | _ => false

/-- Two paths lead to the same place. -/
def isSame (s : Process) (first second : NarrowText) : Bool :=
  match s.files.find (NarrowText.toString first), s.files.find (NarrowText.toString second) with
  | .ok (a, _), .ok (b, _) => a = b
  | _, _ => false

end Process

namespace Testing

/-- What is tested of one text. -/
inductive Single where
  | exists
  | ofKind (kind : FileKind)
  | isLink
  | mayStart
  | filled
  | terminal
  | never
  | empty
  | notEmpty
  deriving DecidableEq, Repr

/-- What is tested of two texts. -/
inductive Double where
  | same
  | different
  | before
  | behind
  | numbers (holds : Ordering → Bool)
  | newer
  | older
  | sameFile

/-- The test of one text that a word names. -/
def single? (word : NarrowText) : Option Single :=
  match String.ofList word with
  | "-e" | "-r" | "-w" | "-O" | "-G" => some .exists
  | "-f" => some (.ofKind .regular)
  | "-d" => some (.ofKind .directory)
  | "-c" => some (.ofKind .device)
  | "-h" | "-L" => some .isLink
  | "-x" => some .mayStart
  | "-s" => some .filled
  | "-t" => some .terminal
  | "-b" | "-p" | "-S" | "-u" | "-g" | "-k" => some .never
  | "-z" => some .empty
  | "-n" => some .notEmpty
  | _ => none

/-- The test of two texts that a word names. -/
def double? (word : NarrowText) : Option Double :=
  match String.ofList word with
  | "=" => some .same
  | "!=" => some .different
  | "<" => some .before
  | ">" => some .behind
  | "-eq" => some (.numbers fun o => o.isEq)
  | "-ne" => some (.numbers fun o => o.isNe)
  | "-gt" => some (.numbers fun o => o.isGT)
  | "-ge" => some (.numbers fun o => o.isGE)
  | "-lt" => some (.numbers fun o => o.isLT)
  | "-le" => some (.numbers fun o => o.isLE)
  | "-nt" => some .newer
  | "-ot" => some .older
  | "-ef" => some .sameFile
  | _ => none

/-- A test of one text; numbers are read as is said. -/
def Single.holds (number : NarrowText → Except NarrowText Int) (s : Process) (test : Single)
    (text : NarrowText) : Except NarrowText Bool :=
  match test with
  | .exists => .ok (s.kind? text).isSome
  | .ofKind kind => .ok (s.kind? text = some kind)
  | .isLink => .ok (s.selfKind? text = some .link)
  | .mayStart => .ok (s.mayStart text)
  | .filled => .ok (s.isFilled text)
  | .terminal => (number text).map fun _ => false
  | .never => .ok false
  | .empty => .ok text.isEmpty
  | .notEmpty => .ok !text.isEmpty

/-- A test of two texts; numbers are read as is said. -/
def Double.holds (number : NarrowText → Except NarrowText Int) (s : Process) (test : Double)
    (first second : NarrowText) : Except NarrowText Bool :=
  match test with
  | .same => .ok (first = second)
  | .different => .ok (first ≠ second)
  | .before => .ok (String.ofList first < String.ofList second)
  | .behind => .ok (String.ofList second < String.ofList first)
  | .numbers holds => do return holds (compare (← number first) (← number second))
  | .newer => .ok ((s.kind? first).isSome && (s.kind? second).isNone)
  | .older => .ok ((s.kind? first).isNone && (s.kind? second).isSome)
  | .sameFile => .ok (s.isSame first second)

end Testing
end SyntaxCensus
