import SyntaxCensus.Host.Shell.Expansion

/-!
# Redirecting descriptors

Before a command runs its redirections are carried out: first all of their
words are expanded, then the descriptors are bound one after the other.

Main definitions:

- `Shell.redirectAll`: carry out redirections.
-/

namespace SyntaxCensus
namespace Shell

/-- Where a descriptor shall lead, with all words expanded. -/
inductive Binding where
  | file (descriptor : Nat) (access : Access) (path : NarrowText)
  | duplicate (descriptor source : Nat)
  | closed (descriptor : Nat)
  | outputs (access : Access) (path : NarrowText)
  | document (descriptor : Nat) (text : NarrowText)

/-- Why a file cannot be opened or created, in the words of a shell. -/
def openReason (creates : Bool) : SystemFault → String
  | .notFound | .notDirectory => if creates then "Directory nonexistent" else "No such file"
  | fault => fault.description

/-- The complaint about a file that cannot be opened or created. -/
def openComplaint (s : State) (creates : Bool) (path : NarrowText) (fault : SystemFault) :
    NarrowText :=
  if s.extended then path ++ ": ".toList ++ fault.description.toList
  else
    "cannot ".toList ++ (if creates then "create " else "open ").toList ++ path ++ ": ".toList ++
      (openReason creates fault).toList

namespace Access

/-- The way in which a file is opened. -/
def mode : Access → Process.OpeningMode
  | read => .read
  | replace | replaceAlways => .replace
  | extend => .extend
  | readWrite => .keep

/-- A file is made if it is missing. -/
def creates : Access → Bool
  | read => false
  | _ => true

end Access

section

variable (outputOf : Command → Run NarrowText)

/-- Complain about a descriptor that has no number, at the line up to which the
script is read. -/
def refuseNumber {α : Type} : Run α := do
  modify fun s => { s with line := s.lastLine }
  Run.fault "Syntax error: Bad fd number".toList

/-- The binding of a redirection. -/
def expandRedirection (redirection : Redirection) : Run Binding := do
  match redirection with
  | .file descriptor access path =>
      return .file descriptor access (← expandText outputOf .atStart path)
  | .duplicate descriptor source => do
      match ← expandText outputOf .atStart source with
      | ['-'] => return .closed descriptor
      | [digit] =>
          if digit.isDigit then return .duplicate descriptor (digit.toNat - '0'.toNat)
          else if (← get).extended then return .outputs .replace [digit]
          else refuseNumber
      | path => if (← get).extended then return .outputs .replace path else refuseNumber
  | .text descriptor text => do
      return .document descriptor ((← expandText outputOf .atStart text) ++ ['\n'])
  | .outputs access path => return .outputs access (← expandText outputOf .atStart path)
  | .document descriptor number => do
      match (← get).documents.find? fun document => document.1 = number with
      | some (_, word) => return .document descriptor (← expandText outputOf .never word)
      | none => return .document descriptor []

end

/-- Bind a descriptor, and complain if that is not possible. -/
def bindDescriptor (binding : Binding) : Run Bool := do
  let s ← get
  match binding with
  | .closed descriptor => do
      Run.onProcess fun process => process.close descriptor
      return true
  | .document descriptor text => do
      Run.onProcess fun process => process.bindTo descriptor (.source text)
      return true
  | .duplicate descriptor source =>
      match s.toProcess.stream? source with
      | some (number, _) => do
          Run.onProcess fun process => process.bind descriptor number
          return true
      | none => do
          Run.complain (Numeral.ofNat source ++ ": Bad file descriptor".toList)
          return false
  | .file descriptor access path =>
      let guarded := decide (access = .replace) && s.isOn 'C'
      let opened :=
        if guarded && s.files.isFile (NarrowText.toString path) then
          match s.toProcess.opened .keep path with
          | .ok (number, process) =>
              match process.streams[number]? with
              | some (.file _ _ _ _ _) => .error .alreadyExists
              | _ => .ok (number, process)
          | .error fault => .error fault
        else s.toProcess.opened access.mode path
      match opened with
      | .ok (number, process) => do
          set (s.withProcess (process.bind descriptor number))
          return true
      | .error fault => do
          let creates := access.creates && !(guarded && fault = .isDirectory)
          Run.complain (openComplaint s creates path fault)
          return false
  | .outputs access path =>
      match s.toProcess.opened access.mode path with
      | .ok (number, process) => do
          set (s.withProcess ((process.bind 1 number).bind 2 number))
          return true
      | .error fault => do
          Run.complain (openComplaint s true path fault)
          return false

/-- Bind descriptors one after the other up to one that cannot be bound. -/
def bindDescriptors : List Binding → Run Bool
  | [] => return true
  | first :: rest => do
      if ← bindDescriptor first then bindDescriptors rest else return false

/-- Carry out redirections, and tell whether that was possible. -/
def redirectAll (outputOf : Command → Run NarrowText) (redirections : List Redirection) :
    Run Bool := do
  let bindings ← redirections.mapM (expandRedirection outputOf)
  bindDescriptors bindings

end Shell
end SyntaxCensus
