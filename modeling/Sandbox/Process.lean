-- SUMMARY: Processes as seen by who starts them: invocations, outcomes, and hosts.
import Sandbox.Text.System

/-!
# Processes

A host answers an invocation with the outcome of the process, or with the fault
for which no process could be started. A text with a NUL is refused first, then
the working directory is entered, and only then is the program looked up.
-/

namespace Sandbox

-- ---------------------------------------------------------------------------
-- Faults
-- ---------------------------------------------------------------------------

/-- Why a process could not be started. -/
inductive SystemFault
  | notFound
  | permissionDenied
  | notADirectory
  | nameTooLong
  | nulByte
  /-- Any other fault, in the words of the system. -/
  | described (text : String)
  deriving DecidableEq, Repr

def SystemFault.message : SystemFault → String
  | .notFound => "No such file or directory (os error 2)"
  | .permissionDenied => "Permission denied (os error 13)"
  | .notADirectory => "Not a directory (os error 20)"
  | .nameTooLong => "File name too long (os error 36)"
  | .nulByte => "nul byte found in provided data"
  | .described text => text

-- ---------------------------------------------------------------------------
-- Outcomes
-- ---------------------------------------------------------------------------

/-- How a process ended. -/
inductive ExitStatus
  | code (n : Nat)
  /-- A signal ended it, perhaps after the system had dumped its memory. -/
  | signal (n : Nat) (coreDumped : Bool := false)
  deriving DecidableEq, Repr

namespace ExitStatus

def isSuccess (s : ExitStatus) : Bool := s = .code 0

/-- The names of the signals from number 1 on. -/
def signalNames : List String :=
  ["SIGHUP", "SIGINT", "SIGQUIT", "SIGILL", "SIGTRAP", "SIGABRT", "SIGBUS", "SIGFPE",
   "SIGKILL", "SIGUSR1", "SIGSEGV", "SIGUSR2", "SIGPIPE", "SIGALRM", "SIGTERM", "SIGSTKFLT",
   "SIGCHLD", "SIGCONT", "SIGSTOP", "SIGTSTP", "SIGTTIN", "SIGTTOU", "SIGURG", "SIGXCPU",
   "SIGXFSZ", "SIGVTALRM", "SIGPROF", "SIGWINCH", "SIGIO", "SIGPWR", "SIGSYS"]

def signalMessage (n : Nat) : String :=
  match n, signalNames[n - 1]? with
  | _ + 1, some name => s!"signal: {n} ({name})"
  | _, _ => s!"signal: {n}"

def message : ExitStatus → String
  | .code n => s!"exit status: {n}"
  | .signal n false => signalMessage n
  | .signal n true => signalMessage n ++ " (core dumped)"

end ExitStatus

/-- What a process leaves behind. -/
structure Outcome where
  status : ExitStatus
  stdout : List UInt8
  stderr : List UInt8
  deriving DecidableEq, Repr

-- ---------------------------------------------------------------------------
-- Hosts
-- ---------------------------------------------------------------------------

/-- A process to start. -/
structure Invocation where
  program : SystemText
  directory : SystemText
  /-- Environment variables set on top of the inherited ones. -/
  environment : List (String × String)
  arguments : List String
  deriving DecidableEq, Repr

/-- The part of a system that processes are started in. -/
structure Host where
  /-- Whether a directory can be entered. -/
  enter : SystemText → Except SystemFault Unit
  /-- What running a program with arguments in a directory yields, if it can be run. -/
  run : (directory program : SystemText) → (arguments : List String) → Except SystemFault Outcome

namespace Host

/-- Starts a process and waits for its end. -/
def spawn (host : Host) (i : Invocation) : Except SystemFault Outcome := do
  if i.program.hasNul ∨ i.directory.hasNul ∨ i.arguments.any (SystemText.hasNul ·) then
    throw .nulByte
  host.enter i.directory
  host.run i.directory i.program i.arguments

end Host
end Sandbox
