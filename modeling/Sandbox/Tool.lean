-- SUMMARY: The interface through which sandboxes are deployed and torn down.
import Sandbox.Error
import Sandbox.Output

/-!
# Tools

A tool is first initialised in a directory; the handle it returns deploys what
assignments declare and reports outputs. Everything a tool does happens in a monad
of its own, so that a recording tool, a tool of processes and any other one
share this interface.
-/

namespace Sandbox

/-- A directory in which a tool is initialised. -/
structure Handle (m : Type → Type) where
  /-- Deploys what the assignments declare, and removes everything else. -/
  apply : (assignments : List String) → ExceptT Error m Unit
  /-- Reports the outputs of what is deployed. -/
  output : ExceptT Error m Outputs

structure Tool (m : Type → Type) where
  init : (directory : SystemText) → ExceptT Error m (Handle m)

end Sandbox
