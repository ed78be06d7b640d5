-- SUMMARY: Running a command line of the remote runner and reporting what came of it.
import Sandbox.Deployment
import Sandbox.Remote.CommandLine
import Sandbox.Terraform

/-!
# Running the remote runner

A run ends with exit code 0 and prints the started instances, or ends with exit
code 1 and the failure on standard error. A command line that cannot be followed
ends with exit code 2 before anything else happens.
-/

namespace Sandbox.Remote

def programName : String := "salvo-remote"

def version : String := "0.1.0"

-- ---------------------------------------------------------------------------
-- Failures
-- ---------------------------------------------------------------------------

/-- Why an order was not carried out. -/
inductive Failure
  | settings (fault : SettingsFault)
  | sandbox (error : Error)
  deriving DecidableEq

namespace Failure

def message : Failure → String
  | .settings fault => fault.message
  | .sandbox error => error.message

def causes : Failure → List String
  | .settings fault => fault.causes
  | .sandbox error => error.causes

/-- The failure and everything that lies behind it, on one line. -/
def report (f : Failure) : String := ": ".intercalate (f.message :: f.causes)

end Failure

-- ---------------------------------------------------------------------------
-- Runs
-- ---------------------------------------------------------------------------

/-- The request for an instance of one build. -/
def requestFor (id : BuildId) : Request := Request.empty.insert .defaultX64 [id.value]

variable {m : Type → Type} [Monad m]

/-- Carries out a command and returns what to print. -/
def carryOut (d : Deployment m) : Command → ExceptT Failure m String
  | .start selection => do
    let id ← ExceptT.mk (pure (selection.resolve.mapError .settings))
    let instances ← (d.start (requestFor id)).adapt .sandbox
    return instances.report
  | .stopAll => do
    d.stopAll.adapt .sandbox
    return ""

/-- The settings that an order leads to in an environment. -/
def Order.settings (env : Environment) (o : Order) : Settings :=
  (Settings.ofEnvironment env).withFlags o.paths

/-- Carries out an order with the tool that a program stands for. -/
def Order.run (tool : (program : SystemText) → Tool m) (env : Environment) (o : Order) :
    ExceptT Failure m String := do
  let configuration ← ExceptT.mk (pure ((o.settings env).configuration.mapError .settings))
  carryOut ⟨configuration, tool configuration.program⟩ o.command

/-- What a run leaves behind. -/
structure Report where
  exitCode : UInt32
  stdout : String
  stderr : String
  deriving DecidableEq, Repr

/-- The texts that a run shows in place of carrying out an order. -/
structure Wording where
  /-- What is printed for a command line that asks for help. -/
  help : (words : List SystemText) → String
  /-- What is printed to standard error for one that cannot be followed. -/
  refusal : (words : List SystemText) → UsageFault → String

def Report.ofStop (wording : Wording) (words : List SystemText) : Stop → Report
  | .version => ⟨0, programName ++ " " ++ version ++ "\n", ""⟩
  | .help => ⟨0, wording.help words, ""⟩
  | .usage fault => ⟨2, "", wording.refusal words fault⟩

def Report.ofResult : Except Failure String → Report
  | .ok stdout => ⟨0, stdout, ""⟩
  | .error failure => ⟨1, "", programName ++ ": " ++ failure.report ++ "\n"⟩

/-- Follows a command line. -/
def run (wording : Wording) (tool : (program : SystemText) → Tool m) (env : Environment)
    (words : List SystemText) : m Report := do
  match Order.ofWords env words with
  | .error stop => return .ofStop wording words stop
  | .ok order => return .ofResult (← (order.run tool env).run)

/-- Follows a command line with the Terraform program of a host. -/
def runOn (wording : Wording) (host : Host) (env : Environment) (words : List SystemText) :
    Logged Invocation Report :=
  run wording (fun program => (Terraform.mk host program).tool) env words

end Sandbox.Remote
