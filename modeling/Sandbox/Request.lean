-- SUMMARY: Requests for sandbox instances, and the rules a request has to meet.
import Sandbox.BuildId
import Sandbox.Request.Fault

/-!
# Requests

A request lists, for each topology, the builds that want an instance of it. Any
lists can be written down; `Request.validate` checks them before they are used.
-/

namespace Sandbox

structure Request where
  lists : Dict Topology (List Int64)
  deriving DecidableEq

namespace Request

def empty : Request := ⟨.empty⟩

instance : EmptyCollection Request := ⟨empty⟩

def isEmpty (r : Request) : Bool := r.lists.isEmpty

/-- The number of topologies requested. -/
def size (r : Request) : Nat := r.lists.size

/-- The topologies requested, each with its builds in order. -/
def entries (r : Request) : List (Topology × List Int64) := r.lists.entries

/-- Requests the builds for a topology, in place of those requested before. -/
def insert (r : Request) (topology : Topology) (ids : List Int64) : Request :=
  ⟨r.lists.insert topology ids⟩

/-- The request of a list of pairs; the last list for a topology counts. -/
def ofList (pairs : List (Topology × List Int64)) : Request := ⟨.ofList pairs⟩

-- ---------------------------------------------------------------------------
-- Validation
-- ---------------------------------------------------------------------------

/-- Checks builds one after the other, behind those already accepted. -/
def checkFrom (topology : Topology) (accepted : List BuildId) :
    List Int64 → Except RequestFault (List BuildId)
  | [] => .ok accepted
  | id :: rest =>
    match BuildId.ofInt64? id with
    | none => .error (.instanceBelowMinimum topology id)
    | some build =>
      if build ∈ accepted then .error (.duplicateInstance topology id)
      else checkFrom topology (accepted ++ [build]) rest

/-- The builds requested for one topology: at least one, all positive and all different. -/
def checkIds (topology : Topology) (ids : List Int64) : Except RequestFault (List BuildId) :=
  if ids.isEmpty then .error (.noInstances topology) else checkFrom topology [] ids

def validate (r : Request) : Except RequestFault Unit :=
  if r.isEmpty then .error .noTopology
  else r.entries.forM fun (topology, ids) => discard (checkIds topology ids)

-- ---------------------------------------------------------------------------
-- JSON
-- ---------------------------------------------------------------------------

open Sandbox.Json

def toJson (r : Request) : Document :=
  .ofFields (r.entries.map fun (topology, ids) =>
    (topology.name, .ofList (ids.map fun id => .ofInt id.toInt)))

def ofJson? (d : Document) : Option Request :=
  (d.dict? Topology.ofKey? (·.list? Document.int64?)).map Request.mk

end Request
end Sandbox
