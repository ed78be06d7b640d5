-- SUMMARY: The stages of driving the tool.

/-!
# Stages
-/

namespace Sandbox

/-- What the tool is used for at one point of a start or a stop. -/
inductive Stage
  | init
  | apply
  | output
  | teardownInit
  | teardownApply
  deriving DecidableEq, Repr

def Stage.name : Stage → String
  | .init => "init"
  | .apply => "apply"
  | .output => "output fetch"
  | .teardownInit => "teardown init"
  | .teardownApply => "teardown apply"

instance : ToString Stage := ⟨Stage.name⟩

end Sandbox
