/-!
# Faults of the system

Why the system refuses to open, read, create or start something.

Main definitions:

- `SystemFault.description`: what went wrong, in words.
- `SystemFault.message`: the same with the number of the fault, if it has one.
-/

namespace SyntaxCensus

/-- Why the system refuses something. -/
inductive SystemFault where
  | notFound
  | noDevice
  | argumentsTooLong
  | notExecutable
  | notOpen
  | permissionDenied
  | alreadyExists
  | notDirectory
  | isDirectory
  | invalid
  | noSpace
  | brokenPipe
  | nameTooLong
  | notEmpty
  | tooManyLinks
  | zeroInPath
  | zeroInArgument
  | notText
  | other (text : String)
  deriving DecidableEq, Repr

namespace SystemFault

/-- What went wrong, in words. -/
def description : SystemFault → String
  | .notFound => "No such file or directory"
  | .noDevice => "No such device or address"
  | .argumentsTooLong => "Argument list too long"
  | .notExecutable => "Exec format error"
  | .notOpen => "Bad file descriptor"
  | .permissionDenied => "Permission denied"
  | .alreadyExists => "File exists"
  | .notDirectory => "Not a directory"
  | .isDirectory => "Is a directory"
  | .invalid => "Invalid argument"
  | .noSpace => "No space left on device"
  | .brokenPipe => "Broken pipe"
  | .nameTooLong => "File name too long"
  | .notEmpty => "Directory not empty"
  | .tooManyLinks => "Too many levels of symbolic links"
  | .zeroInPath => "file name contained an unexpected NUL byte"
  | .zeroInArgument => "nul byte found in provided data"
  | .notText => "stream did not contain valid UTF-8"
  | .other text => text

/-- The number by which the system knows a fault. -/
def number? : SystemFault → Option Nat
  | .notFound => some 2
  | .noDevice => some 6
  | .argumentsTooLong => some 7
  | .notExecutable => some 8
  | .notOpen => some 9
  | .permissionDenied => some 13
  | .alreadyExists => some 17
  | .notDirectory => some 20
  | .isDirectory => some 21
  | .invalid => some 22
  | .noSpace => some 28
  | .brokenPipe => some 32
  | .nameTooLong => some 36
  | .notEmpty => some 39
  | .tooManyLinks => some 40
  | .zeroInPath | .zeroInArgument | .notText | .other _ => none

/-- What went wrong, with the number of the fault. -/
def message (fault : SystemFault) : String :=
  match fault.number? with
  | some number => s!"{fault.description} (os error {number})"
  | none => fault.description

end SystemFault
end SyntaxCensus
