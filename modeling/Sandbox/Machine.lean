-- SUMMARY: The machines of a sandbox: roles, addresses, and JSON form.
import Sandbox.Address.Printer
import Sandbox.Address.Reader
import Sandbox.Json.Layout

/-!
# Machines

A machine has an address for the load it originates or receives and another one
through which it is controlled. Either may still be unknown.
-/

namespace Sandbox

/-- What a machine does in a sandbox. -/
inductive Role
  | loadGenerator
  | systemUnderTest
  | backend
  deriving DecidableEq, Repr

def Role.name : Role → String
  | .loadGenerator => "load_generator"
  | .systemUnderTest => "sut"
  | .backend => "backend"

instance : ToString Role := ⟨Role.name⟩

/-- The addresses a machine has. -/
inductive Field
  | address
  | controlAddress
  deriving DecidableEq, Repr

structure Machine where
  address : Option Address
  controlAddress : Option Address
  deriving DecidableEq, Repr

namespace Machine

/-- A machine about which nothing is known yet. -/
def placeholder : Machine := ⟨none, none⟩

def isPlaceholder (m : Machine) : Bool := m.address.isNone && m.controlAddress.isNone

def get (m : Machine) : Field → Option Address
  | .address => m.address
  | .controlAddress => m.controlAddress

def set (m : Machine) (field : Field) (value : Option Address) : Machine :=
  match field with
  | .address => { m with address := value }
  | .controlAddress => { m with controlAddress := value }

-- ---------------------------------------------------------------------------
-- JSON
-- ---------------------------------------------------------------------------

open Sandbox.Json

def addressToJson : Option Address → Document
  | none => .null
  | some a => .ofString a.text

/-- Reads an address or null. -/
def addressOfJson? (d : Document) : Option (Option Address) :=
  if d.isNull then some none else (d.string? >>= Address.ofText?).map some

def toJson (m : Machine) : Document :=
  .ofFields [("ip", addressToJson m.address), ("control_ip", addressToJson m.controlAddress)]

/-- Reads a machine from an object, in which an unknown address may be left out, or from an
    array of both addresses. -/
def ofJson? (d : Document) : Option Machine := do
  match d.items? with
  | some [address, controlAddress] =>
    return ⟨← addressOfJson? address, ← addressOfJson? controlAddress⟩
  | some _ => none
  | none =>
    let fields ← d.fields? ["ip", "control_ip"]
    let field (name : String) : Option (Option Address) :=
      match fields.lookup name with
      | none => some none
      | some d => addressOfJson? d
    return ⟨← field "ip", ← field "control_ip"⟩

end Machine
end Sandbox
