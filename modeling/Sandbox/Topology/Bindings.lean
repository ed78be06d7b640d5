-- SUMMARY: Which of the tool's outputs fill which slots of a topology's instances.
import Sandbox.Instance

/-!
# Bindings

For each topology, the outputs that the tool reports for it, in the order in
which they are read, and the slot that each of them fills.
-/

namespace Sandbox

/-- An output of the tool and the slot it fills. -/
structure Binding where
  output : String
  slot : Slot
  deriving DecidableEq, Repr

namespace Topology

/-- The topologies that can be assembled. -/
def supported : List Topology := [.defaultX64]

/-- The outputs that must be present, in reading order. -/
def bindings : Topology → List Binding
  | .defaultX64 =>
    [⟨"default_sandbox_x64_build_ids_to_load_generator_0_control_vm_subnet_ip_list",
      ⟨.loadGenerator, 0, .controlAddress⟩⟩,
     ⟨"default_sandbox_x64_build_ids_to_sut_0_control_vm_subnet_ip_list",
      ⟨.systemUnderTest, 0, .controlAddress⟩⟩,
     ⟨"default_sandbox_x64_build_ids_to_backend_0_control_vm_subnet_ip_list",
      ⟨.backend, 0, .controlAddress⟩⟩,
     ⟨"default_sandbox_x64_build_ids_to_load_generator_0_load_generator_subnet_ip_list",
      ⟨.loadGenerator, 0, .address⟩⟩,
     ⟨"default_sandbox_x64_build_ids_to_sut_0_load_generator_subnet_ip_list",
      ⟨.systemUnderTest, 0, .address⟩⟩,
     ⟨"default_sandbox_x64_build_ids_to_backend_0_backend_subnet_ip_list",
      ⟨.backend, 0, .address⟩⟩]

/-- The number of addresses that each output must list for each build. -/
def addressesPerOutput : Topology → Nat
  | .defaultX64 => 1

/-- An instance with every slot still empty. -/
def placeholder (t : Topology) : Instance :=
  match t with
  | .defaultX64 => .placeholders t 1

end Topology
end Sandbox
