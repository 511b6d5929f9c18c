import SyntaxCensus.Files.Fault

/-!
# Processes

A program that is started gets arguments and an input, and leaves behind what
it wrote on its two channels, how much input it did not take, and how it
ended.

Main definitions:

- `Ending.description`: how a process ended, in words.
- `Finished`: what a process leaves behind, and `LaunchFault` why it left nothing.
- `Launcher`: how programs are started.
-/

namespace SyntaxCensus

/-- How a process ended: with a status, or by a signal, which may have left an
image of its memory. -/
inductive Ending where
  | exited (status : Nat)
  | killed (signal : Nat) (dumped : Bool)
  deriving DecidableEq, Repr

namespace Ending

/-- The names of the signals from one on. -/
def signalNames : List String :=
  ["SIGHUP", "SIGINT", "SIGQUIT", "SIGILL", "SIGTRAP", "SIGABRT", "SIGBUS", "SIGFPE", "SIGKILL",
    "SIGUSR1", "SIGSEGV", "SIGUSR2", "SIGPIPE", "SIGALRM", "SIGTERM", "SIGSTKFLT", "SIGCHLD",
    "SIGCONT", "SIGSTOP", "SIGTSTP", "SIGTTIN", "SIGTTOU", "SIGURG", "SIGXCPU", "SIGXFSZ",
    "SIGVTALRM", "SIGPROF", "SIGWINCH", "SIGIO", "SIGPWR", "SIGSYS"]

/-- The name of a signal. -/
def signalName? (signal : Nat) : Option String :=
  match signal with
  | 0 => none
  | i + 1 => signalNames[i]?

/-- How a process ended, in words. -/
def description : Ending → String
  | .exited status => s!"exit status: {status}"
  | .killed signal dumped =>
      let known := match signalName? signal with
        | some name => s!"signal: {signal} ({name})"
        | none => s!"signal: {signal}"
      if dumped then known ++ " (core dumped)" else known

/-- The process exited with status zero. -/
def isSuccess (ending : Ending) : Bool :=
  ending = .exited 0

/-- The status by which a shell knows an ending. -/
def status : Ending → Nat
  | .exited status => status
  | .killed signal _ => 128 + signal

end Ending

/-- The variables that processes are started with. -/
abbrev Environment := List (String × String)

/-- The value of a variable. -/
def Environment.get? (environment : Environment) (name : String) : Option String :=
  (environment.find? fun binding => binding.1 = name).map Prod.snd

/-- What a process leaves behind; `unread` is the number of octets of its
input that it did not take. -/
structure Finished where
  output : List UInt8
  diagnostics : List UInt8
  unread : Nat
  ending : Ending
  deriving DecidableEq, Repr

/-- Why a program left nothing behind: it could not be started, or its input or
its output was lost on the way. -/
inductive LaunchFault where
  | notStarted (cause : SystemFault)
  | interrupted (cause : SystemFault)
  deriving DecidableEq, Repr

/-- How programs are started: with a name, arguments and an input, on a state
that they may change. -/
abbrev Launcher (σ : Type) :=
  String → List String → List UInt8 → σ → Except LaunchFault Finished × σ

/-- The octets that a channel holds while nobody takes them. -/
def channelCapacity : Nat := 65536

/-- The process ended while the rest of its input did not fit the channel. -/
def Finished.stoppedEarly (finished : Finished) : Bool :=
  channelCapacity < finished.unread

end SyntaxCensus
