-- SUMMARY: Starting and stopping sandboxes through a tool.
import Sandbox.Assembly
import Sandbox.Assignment
import Sandbox.Tool

/-!
# Deployments

A deployment is what one configuration of the tool keeps running. Both activities
check what they were given before the tool is used at all, and end at the first
failure of the tool, which is reported with its stage. Stopping applies no
assignments, which removes every sandbox.
-/

namespace Sandbox

structure Deployment (m : Type → Type) where
  configuration : Configuration
  tool : Tool m

namespace Deployment

variable {m : Type → Type} [Monad m] {α ε : Type}

/-- A check that uses no tool. -/
def check (x : Except ε α) (toError : ε → Error) : ExceptT Error m α :=
  ExceptT.mk (pure (x.mapError toError))

/-- A use of the tool at a stage. -/
def atStage (stage : Stage) (x : ExceptT Error m α) : ExceptT Error m α :=
  x.adapt fun e => .tool stage e.message

/-- Deploys the requested sandboxes and describes them. -/
def start (d : Deployment m) (request : Request) : ExceptT Error m Instances := do
  let assignments ← check request.assignments .request
  check d.configuration.validate .configuration
  let handle ← atStage .init (d.tool.init d.configuration.directory)
  atStage .apply (handle.apply (assignments.map Assignment.text))
  let outputs ← atStage .output handle.output
  check (request.assemble outputs) id

/-- Removes every sandbox. -/
def stopAll (d : Deployment m) : ExceptT Error m Unit := do
  check d.configuration.validate .configuration
  let handle ← atStage .teardownInit (d.tool.init d.configuration.directory)
  atStage .teardownApply (handle.apply [])

end Deployment
end Sandbox
