-- SUMMARY: Where the tool's definitions are and which program runs them.
import Sandbox.Text.System

/-!
# Configuration
-/

namespace Sandbox

/-- What is wrong with a configuration. -/
inductive ConfigurationFault
  | noDirectory
  | noProgram
  /-- A fault that a tool describes in its own words. -/
  | described (text : String)
  deriving DecidableEq, Repr

def ConfigurationFault.message : ConfigurationFault → String
  | .noDirectory => "working_dir is required"
  | .noProgram => "terraform_path is required"
  | .described text => text

structure Configuration where
  /-- The directory with the definitions of the sandboxes. -/
  directory : SystemText := "terraform/"
  /-- The tool's program, looked up on the search path. -/
  program : SystemText := "terraform"
  deriving DecidableEq, Repr

namespace Configuration

/-- Neither path may be empty. -/
def validate (c : Configuration) : Except ConfigurationFault Unit :=
  if c.directory.isEmpty then .error .noDirectory
  else if c.program.isEmpty then .error .noProgram
  else .ok ()

end Configuration
end Sandbox
