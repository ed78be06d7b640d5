-- SUMMARY: What can be wrong with a request, and the message for it.
import Sandbox.BuildId
import Sandbox.Topology
import Sandbox.Text.Quoted

/-!
# Request faults
-/

namespace Sandbox

/-- Why a text is not an assignment. -/
inductive AssignmentFault
  | missingEquals
  | missingBrackets
  | notIntegers
  deriving DecidableEq, Repr

def AssignmentFault.message : AssignmentFault → String
  | .missingEquals => "missing '='"
  | .missingBrackets => "build IDs must be enclosed in []"
  | .notIntegers => "build IDs must be integers"

/-- What is wrong with a request, a part of one, or the text of an assignment. -/
inductive RequestFault
  | noTopology
  | unsupportedTopology (name : String)
  | buildIdBelowMinimum (id : Int64)
  | noInstances (topology : Topology)
  | instanceBelowMinimum (topology : Topology) (id : Int64)
  | duplicateInstance (topology : Topology) (id : Int64)
  | malformedAssignment (text : String) (fault : AssignmentFault)
  /-- A fault that a tool describes in its own words. -/
  | described (text : String)
  deriving DecidableEq, Repr

open Sandbox.Text in
def RequestFault.message : RequestFault → String
  | .noTopology => "at least one sandbox type must be specified"
  | .unsupportedTopology name => s!"unsupported sandbox type {quoted name}"
  | .buildIdBelowMinimum id =>
    s!"build ID {id} is invalid, the minimum allowed build ID is {BuildId.minimum}"
  | .noInstances topology =>
    s!"sandbox type {topology} has zero instances, at least one instance (one build ID) must be specified"
  | .instanceBelowMinimum topology id =>
    s!"sandbox type {topology} has instance (build ID) {id}, the minimum allowed instance is {BuildId.minimum}"
  | .duplicateInstance topology id =>
    s!"sandbox type {topology} has duplicate instance (build ID) {id}"
  | .malformedAssignment text fault => s!"malformed variable {quoted text}: {fault.message}"
  | .described text => text

end Sandbox
