-- SUMMARY: Why a valid request can fail to be assembled, and what it yields if it does not.
import Sandbox.Proofs.Assembly

/-!
# Faults of assembly

A request that has passed its checks can only fail for what the outputs hold. The
error names the output, and the build in it, at which they fall short. If there is
no error, every build requested has its own instance, and no address in it is left
unknown.
-/

namespace Sandbox

open Checks

/-! ## Outputs that fall short -/

/-- An error that the outputs account for: a bound output is missing, or is no book, or does not
    list a requested build, or lists a requested build with more or fewer addresses than one. -/
inductive Outputs.Explain (outputs : Outputs) (t : Topology) (ids : List Int64) : Error → Prop
  | missing {b : Binding} : b ∈ t.bindings → outputs.get? b.output = none →
      outputs.Explain t ids (.assembly (.missingOutput b.output))
  | undecodable {b : Binding} {output : Output} {fault : DecodeFault} : b ∈ t.bindings →
      outputs.get? b.output = some output → AddressBook.decode output.value = .error fault →
      outputs.Explain t ids (.decode b.output output.value fault)
  | absent {b : Binding} {book : AddressBook} {id : BuildId} : b ∈ t.bindings →
      outputs.Reports b.output book → id.value ∈ ids → book.get? id = none →
      outputs.Explain t ids (.assembly (.missingInstance id b.output book))
  | miscounted {b : Binding} {book : AddressBook} {id : BuildId} {as : List Address} :
      b ∈ t.bindings → outputs.Reports b.output book → id.value ∈ ids → book.get? id = some as →
      as.length ≠ 1 → outputs.Explain t ids (.assembly (.wrongCount id b.output 1 as))

namespace Outputs.Explain

variable {outputs : Outputs} {t : Topology} {ids : List Int64}

theorem of_decode {b : Binding} {e : Error} (hb : b ∈ t.bindings)
    (h : b.decode outputs = .error e) : outputs.Explain t ids e := by
  rcases Binding.decode_eq_error_iff.1 h with ⟨hnone, rfl⟩ | ⟨_, fault, houtput, hfault, rfl⟩
  · exact .missing hb hnone
  · exact .undecodable hb houtput hfault

theorem of_addresses {b : BoundBook} {id : BuildId} {fault : AssemblyFault}
    (hb : b.binding ∈ t.bindings) (hreports : outputs.Reports b.binding.output b.book)
    (hid : id.value ∈ ids) (h : b.addresses 1 id = .error fault) :
    outputs.Explain t ids (.assembly fault) := by
  rcases BoundBook.addresses_eq_error_iff.1 h with ⟨hnone, rfl⟩ | ⟨as, hget, hcount, rfl⟩
  · exact .absent hb hreports hid hnone
  · exact .miscounted hb hreports hid hget hcount

end Outputs.Explain

/-! ## Errors of assembly -/

namespace Topology

variable {t : Topology} {outputs : Outputs}

theorem explain_of_assemble {ids : List BuildId} {e : Error}
    (h : t.assemble ids outputs = .error e) : outputs.Explain t (ids.map (·.value)) e := by
  rcases bind_eq_error.1 h with hdecode | ⟨books, hbooks, hall⟩
  · obtain ⟨b, hb, hb'⟩ := decodeAll_eq_error.1 hdecode
    exact .of_decode hb.mem hb'
  · obtain ⟨fault, hfault, rfl⟩ := mapError_eq_error.1 hall
    have hbinds : t.Binds books := binds_of_decodeAll hbooks
    obtain ⟨id, b, hfirst, haddresses⟩ := (assembleAll_eq_error hbinds).1 hfault
    obtain ⟨hid, hb⟩ := List.mem_product.1 hfirst.mem
    have hreports := (decodeAll_eq_ok hbooks).2 b hb
    exact .of_addresses (hbinds b hb) hreports (List.mem_map_of_mem hid) haddresses

/-- Different builds get an instance each. -/
theorem size_of_assemble {ids : List BuildId} {is : Instances} (hnodup : ids.Nodup)
    (h : t.assemble ids outputs = .ok is) : is.size = ids.length := by
  have hkeys : is.keys.Perm ids :=
    (List.perm_ext_iff_of_nodup is.nodup_keys hnodup).2 (assemble_eq_ok h).1
  have hlength : is.size = is.keys.length := (List.length_map _).symm
  rw [hlength, hkeys.length_eq]

end Topology

/-! ## Filled instances -/

/-- There is one machine in each role, and both of its addresses are known. -/
def Instance.Filled (i : Instance) : Prop :=
  ∀ role, ∃ address controlAddress, i.machines role = [⟨some address, some controlAddress⟩]

/-- The bindings of a topology leave no address unknown. -/
theorem Topology.Describes.filled {t : Topology} {outputs : Outputs} {id : BuildId} {i : Instance}
    (h : t.Describes outputs id i) : i.Filled := by
  intro role
  obtain ⟨m, hm, hfields⟩ := h.machine role
  have hknown : ∀ field, ∃ address, m.get field = some address := by
    intro field
    obtain ⟨⟨b, hb, hslot⟩, hall⟩ := hfields field
    obtain ⟨address, -, haddress⟩ := hall b hb hslot
    exact ⟨address, haddress⟩
  obtain ⟨address, haddress⟩ := hknown .address
  obtain ⟨controlAddress, hcontrol⟩ := hknown .controlAddress
  refine ⟨address, controlAddress, hm.trans ?_⟩
  congr 1
  exact Machine.ext_get fun field => by cases field <;> assumption

/-! ## Valid requests -/

namespace Request

/-- The checks of a request and its assembly agree: once a request has assignments, it fails to
    be assembled only for what the outputs hold, and otherwise each of its builds has an instance
    with all addresses. -/
theorem assemble_of_assignments {r : Request} {vs : List Assignment} (h : r.assignments = .ok vs)
    (outputs : Outputs) :
    ∃ ids, r.lists.get? .defaultX64 = some ids ∧
      (∀ e, r.assemble outputs = .error e → outputs.Explain .defaultX64 ids e) ∧
      ∀ is, r.assemble outputs = .ok is →
        is.size = ids.length ∧ ∀ id i, is.get? id = some i → i.Filled := by
  obtain ⟨builds, ⟨hids, hne, hnodup⟩, -⟩ := assignments_eq_ok.1 h
  have hassemble : r.assemble outputs = Topology.assemble .defaultX64 builds outputs :=
    assembleBy_of_builds hne hids fun t builds => t.assemble builds outputs
  refine ⟨_, hids, ?_, ?_⟩
  · intro e he
    rw [hassemble] at he
    exact Topology.explain_of_assemble he
  · intro is his
    rw [hassemble] at his
    refine ⟨by rw [List.length_map, Topology.size_of_assemble hnodup his], ?_⟩
    intro id i hi
    exact ((Topology.assemble_eq_ok his).2 id i hi).filled

/-- A request for two builds. -/
def twoRequested : Request := empty.insert .defaultX64 [12, 7]

theorem assemble_twoRequested :
    twoRequested.assignments = .ok [⟨.defaultX64, [⟨12, by decide⟩, ⟨7, by decide⟩]⟩] ∧
      ∃ ids, twoRequested.lists.get? .defaultX64 = some ids ∧
        (∀ e, twoRequested.assemble unevenOutputs = .error e →
          unevenOutputs.Explain .defaultX64 ids e) ∧
        ∀ is, twoRequested.assemble unevenOutputs = .ok is →
          is.size = ids.length ∧ ∀ id i, is.get? id = some i → i.Filled :=
  ⟨rfl, assemble_of_assignments rfl unevenOutputs⟩

end Request
end Sandbox
