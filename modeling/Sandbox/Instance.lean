-- SUMMARY: Sandbox instances, their slots, and their JSON form.
import Sandbox.BuildId
import Sandbox.Machine
import Sandbox.Topology

/-!
# Instances

An instance is one deployed sandbox: its machines, listed by role. A slot is the
place of one address in it.
-/

namespace Sandbox

/-- One address of one machine. -/
structure Slot where
  role : Role
  index : Nat
  field : Field
  deriving DecidableEq, Repr

structure Instance where
  topology : Topology
  loadGenerators : List Machine
  systemsUnderTest : List Machine
  backends : List Machine
  deriving DecidableEq, Repr

namespace Instance

/-- An instance with `count` placeholders in each role. -/
def placeholders (topology : Topology) (count : Nat) : Instance :=
  let machines := List.replicate count Machine.placeholder
  ⟨topology, machines, machines, machines⟩

def machines (i : Instance) : Role → List Machine
  | .loadGenerator => i.loadGenerators
  | .systemUnderTest => i.systemsUnderTest
  | .backend => i.backends

def setMachines (i : Instance) (role : Role) (machines : List Machine) : Instance :=
  match role with
  | .loadGenerator => { i with loadGenerators := machines }
  | .systemUnderTest => { i with systemsUnderTest := machines }
  | .backend => { i with backends := machines }

-- ---------------------------------------------------------------------------
-- Slots
-- ---------------------------------------------------------------------------

/-- The machine of a slot, if there is one. -/
def machine? (i : Instance) (role : Role) (index : Nat) : Option Machine :=
  (i.machines role)[index]?

/-- The content of a slot; `none` if there is no such machine. -/
def get? (i : Instance) (slot : Slot) : Option (Option Address) :=
  (i.machine? slot.role slot.index).map (·.get slot.field)

/-- The instance with a new value in a slot, and unchanged if there is no such machine. -/
def set (i : Instance) (slot : Slot) (value : Option Address) : Instance :=
  i.setMachines slot.role
    ((i.machines slot.role).modify slot.index (·.set slot.field value))

-- ---------------------------------------------------------------------------
-- JSON
-- ---------------------------------------------------------------------------

open Sandbox.Json

def toJson (i : Instance) : Document :=
  .ofFields
    [("sandbox_type", i.topology.toJson),
     ("load_generators", .ofList (i.loadGenerators.map Machine.toJson)),
     ("suts", .ofList (i.systemsUnderTest.map Machine.toJson)),
     ("backends", .ofList (i.backends.map Machine.toJson))]

instance : ToString Instance := ⟨fun i => i.toJson.text⟩

def ofParts? (topology loadGenerators systemsUnderTest backends : Document) :
    Option Instance := do
  return {
    topology := ← Topology.ofJson? topology
    loadGenerators := ← loadGenerators.list? Machine.ofJson?
    systemsUnderTest := ← systemsUnderTest.list? Machine.ofJson?
    backends := ← backends.list? Machine.ofJson? }

/-- Reads an instance from an object with its four fields or from an array of them. -/
def ofJson? (d : Document) : Option Instance := do
  match d.items? with
  | some [topology, loadGenerators, systemsUnderTest, backends] =>
    ofParts? topology loadGenerators systemsUnderTest backends
  | some _ => none
  | none =>
    let fields ← d.fields? ["sandbox_type", "load_generators", "suts", "backends"]
    ofParts? (← fields.lookup "sandbox_type") (← fields.lookup "load_generators")
      (← fields.lookup "suts") (← fields.lookup "backends")

end Instance

-- ---------------------------------------------------------------------------
-- Instances by build
-- ---------------------------------------------------------------------------

/-- Deployed instances by build. -/
abbrev Instances := Dict BuildId Instance

namespace Instances

open Sandbox.Json

def toJson (is : Instances) : Document :=
  .ofFields (is.entries.map fun (id, i) => (id.key, i.toJson))

def ofJson? (d : Document) : Option Instances :=
  d.dict? BuildId.ofKey? Instance.ofJson?

/-- The description of instances over several lines. -/
def report (is : Instances) : String := (is.toJson.indented 0).text ++ "\n"

end Instances
end Sandbox
