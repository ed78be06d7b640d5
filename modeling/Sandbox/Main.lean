-- SUMMARY: The command line program.
import Sandbox.Remote.Run

/-!
# The program

Follows the command line with which it is called. It has no means of starting
processes, so its host has no program: it answers help, version and usage by
itself, and a command ends where the tool would be started.
-/

namespace Sandbox

/-- The environment variables that the program reads. -/
def environmentVariables : List String :=
  [Remote.directoryVariable, Remote.programVariable] ++
    [Remote.Flag.buildId, Remote.Flag.override].filterMap Remote.Flag.environmentVariable?

/-- What the program says of a command line that it cannot follow. -/
def usageMessage : Remote.UsageFault → String
  | .noCommand => "a command is required: start or stop-all"
  | .unknownCommand word => s!"unknown command {Text.Utf8.lossy word.bytes}"
  | .unexpected word => s!"unexpected argument {Text.Utf8.lossy word.bytes}"
  | .noValue flag => s!"--{flag.name} needs a value"
  | .emptyValue flag => s!"the value of --{flag.name} must not be empty"
  | .notAnInteger flag value => s!"the value {value} of --{flag.name} is not an integer"
  | .notUnicode flag => s!"the value of --{flag.name} is not Unicode"
  | .repeated flag => s!"--{flag.name} is given more than once"
  | .noBuildId => "--build-id is required"

/-- Help and refusals in a few words. -/
def briefWording : Remote.Wording where
  help _ :=
    "Usage: salvo-remote [--terraform-dir DIR] [--terraform-bin FILE] COMMAND\n\n" ++
    "Commands:\n" ++
    "  start --build-id N [--build-id-override N]\n" ++
    "  stop-all\n"
  refusal _ fault := "error: " ++ usageMessage fault ++ "\n"

/-- A host on which no program can be found. -/
def bareHost : Host where
  enter _ := .ok ()
  run _ _ _ := .error .notFound

end Sandbox

open Sandbox in
def main (words : List String) : IO UInt32 := do
  let values ← environmentVariables.mapM fun name => return (name, ← IO.getEnv name)
  let env : Remote.Environment := .ofTexts fun name => (values.lookup name).join
  let report := (Remote.runOn briefWording bareHost env (words.map .ofString)).value
  IO.print report.stdout
  IO.eprint report.stderr
  return report.exitCode
