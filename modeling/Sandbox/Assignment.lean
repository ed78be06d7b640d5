-- SUMMARY: Assignments to the tool's variables: a topology and its builds as one text.
import Sandbox.Request

/-!
# Assignments

The tool has a variable for each topology, and an assignment gives it the builds
requested. Its text is the topology's name, `=`, and the build IDs in brackets
with commas between them.
-/

namespace Sandbox

structure Assignment where
  topology : Topology
  ids : List BuildId
  deriving DecidableEq

namespace Assignment

def text (v : Assignment) : String :=
  v.topology.name ++ "=[" ++ ",".intercalate (v.ids.map toString) ++ "]"

-- ---------------------------------------------------------------------------
-- Reading
-- ---------------------------------------------------------------------------

/-- What stands before and after the first `=`. -/
def splitAtEquals : List Char → Option (List Char × List Char)
  | [] => none
  | c :: rest =>
    if c = '=' then some ([], rest)
    else (splitAtEquals rest).map fun (before, after) => (c :: before, after)

/-- What stands between a bracket at the start and a bracket at the end. -/
def unbracket? : List Char → Option (List Char)
  | '[' :: rest => if rest.getLast? = some ']' then some rest.dropLast else none
  | _ => none

/-- The integers between commas; none at all in an empty list. -/
def readIds (cs : List Char) : Except Text.IntegerFault (List Int64) :=
  if cs.isEmpty then .ok [] else (cs.splitOn ',').mapM Text.readInteger

/-- Reads an assignment from its text. The builds must meet the rules for requests. -/
def ofText (s : String) : Except RequestFault Assignment := do
  let some (name, list) := splitAtEquals s.toList
    | throw (.malformedAssignment s .missingEquals)
  let some topology := Topology.ofName? (.ofList name)
    | throw (.unsupportedTopology (.ofList name))
  let some inner := unbracket? list
    | throw (.malformedAssignment s .missingBrackets)
  let ids ← (readIds inner).mapError fun _ => .malformedAssignment s .notIntegers
  return ⟨topology, ← Request.checkIds topology ids⟩

end Assignment

/-- The assignments of a valid request, one for each topology. -/
def Request.assignments (r : Request) : Except RequestFault (List Assignment) :=
  if r.isEmpty then .error .noTopology
  else r.entries.mapM fun (topology, ids) => return ⟨topology, ← checkIds topology ids⟩

end Sandbox
