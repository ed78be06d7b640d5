-- SUMMARY: The tool as processes of the Terraform program on a host.
import Sandbox.Logged
import Sandbox.Tool

/-!
# Terraform

Each use of the tool is one process of its program in the initialised directory.
The processes that could be started are recorded; those that could not are
system faults, and those that did not end with success are command faults.
-/

namespace Sandbox

/-- The Terraform program of a host. -/
structure Terraform where
  host : Host
  program : SystemText

namespace Terraform

/-- The environment by which the program knows that nobody answers its questions. -/
def environment : List (String × String) := [("TF_IN_AUTOMATION", "1")]

def initArguments : List String := ["init", "-input=false", "-no-color"]

def applyArguments (assignments : List String) : List String :=
  ["apply", "-auto-approve", "-input=false", "-no-color"] ++
    assignments.flatMap fun v => ["-var", v]

def outputArguments : List String := ["output", "-json", "-no-color"]

def invocation (t : Terraform) (directory : SystemText) (arguments : List String) : Invocation :=
  ⟨t.program, directory, environment, arguments⟩

/-- What a finished process yields: its standard output if it succeeded. -/
def result (command : String) (o : Outcome) : Except Error (List UInt8) :=
  if o.status.isSuccess then .ok o.stdout
  else .error (.command (.failed command o.status o.stderr))

/-- Runs the program in a directory and returns its standard output. -/
def run (t : Terraform) (directory : SystemText) (arguments : List String) :
    ExceptT Error (Logged Invocation) (List UInt8) := do
  let invocation := t.invocation directory arguments
  match t.host.spawn invocation with
  | .error fault => throw (.system fault)
  | .ok outcome =>
    Logged.record invocation
    ExceptT.mk (pure (result (arguments.headD "") outcome))

def handle (t : Terraform) (directory : SystemText) : Handle (Logged Invocation) where
  apply assignments := discard (t.run directory (applyArguments assignments))
  output := do
    let stdout ← t.run directory outputArguments
    let some outputs := Outputs.ofBytes? stdout | throw .json
    return outputs

def tool (t : Terraform) : Tool (Logged Invocation) where
  init directory := do
    discard (t.run directory initArguments)
    return t.handle directory

end Terraform
end Sandbox
