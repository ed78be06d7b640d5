-- SUMMARY: A tool that answers as told and records how it is called.
import Sandbox.Logged
import Sandbox.Tool

/-!
# Recorded tools
-/

namespace Sandbox

/-- One use of a tool. -/
inductive Call
  | init (directory : SystemText)
  | apply (assignments : List String)
  | output
  deriving DecidableEq, Repr

/-- What a tool answers to each use. -/
structure Answers where
  init : (directory : SystemText) → Except Error Unit
  apply : (assignments : List String) → Except Error Unit
  output : Except Error Outputs

namespace Answers

/-- Records a call and answers it. -/
def reply {α : Type} (call : Call) (answer : Except Error α) : ExceptT Error (Logged Call) α := do
  Logged.record call
  ExceptT.mk (pure answer)

def handle (a : Answers) : Handle (Logged Call) where
  apply assignments := reply (.apply assignments) (a.apply assignments)
  output := reply .output a.output

/-- The tool with these answers. Every call is recorded, whether or not it succeeds. -/
def tool (a : Answers) : Tool (Logged Call) where
  init directory := do
    reply (.init directory) (a.init directory)
    return a.handle

end Answers
end Sandbox
