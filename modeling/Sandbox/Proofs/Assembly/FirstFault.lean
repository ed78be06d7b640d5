-- SUMMARY: Which of all faults of a request and its outputs assembly reports.
import Sandbox.Proofs.Assembly
import Sandbox.Proofs.Messages

/-!
# The first fault

Assembly goes through three phases, each of which stops at its first fault: the
checks of the request, the outputs in the order of the bindings, and the builds
in the order requested, each with all bindings. A later phase is not entered
before the earlier ones are through.
-/

namespace Sandbox

open Checks

/-! ## Faults in order -/

/-- The output bound here is missing or no book, and those bound ahead of it are books. -/
def Outputs.FirstUnreadable (outputs : Outputs) (t : Topology) (b : Binding) : Prop :=
  First (fun b => ¬ ∃ book, outputs.Reports b.output book) t.bindings b

/-- All bound outputs are books, and of all builds, each of them with all bindings, these are the
    first two where the book does not list one address for the build. -/
structure Outputs.FirstUnlisted (outputs : Outputs) (t : Topology) (builds : List BuildId)
    (id : BuildId) (b : Binding) (book : AddressBook) : Prop where
  readable : ∀ b ∈ t.bindings, ∃ book, outputs.Reports b.output book
  first : First (fun (id, b) => ¬ ∃ address, outputs.Lists b.output id address)
    (builds ×ˢ t.bindings) (id, b)
  reports : outputs.Reports b.output book

/-- The fault at which assembly stops. -/
inductive Request.FirstFault (r : Request) (outputs : Outputs) : Error → Prop
  | noTopology (hempty : r.isEmpty) : r.FirstFault outputs (.assembly .noTopology)
  | noInstances (hids : r.lists.get? .defaultX64 = some []) :
    r.FirstFault outputs (.assembly (.noInstances .defaultX64))
  | notPositive {ids : List Int64} {id : Int64} (hids : r.lists.get? .defaultX64 = some ids)
      (hid : First (· < 1) ids id) : r.FirstFault outputs (.assembly (.buildIdBelowMinimum id))
  | missing {builds : List BuildId} {b : Binding} (hne : builds ≠ [])
      (hids : r.lists.get? .defaultX64 = some (builds.map (·.value)))
      (hb : outputs.FirstUnreadable .defaultX64 b) (houtput : outputs.get? b.output = none) :
    r.FirstFault outputs (.assembly (.missingOutput b.output))
  | undecodable {builds : List BuildId} {b : Binding} {output : Output} {fault : DecodeFault}
      (hne : builds ≠ []) (hids : r.lists.get? .defaultX64 = some (builds.map (·.value)))
      (hb : outputs.FirstUnreadable .defaultX64 b) (houtput : outputs.get? b.output = some output)
      (hfault : AddressBook.decode output.value = .error fault) :
    r.FirstFault outputs (.decode b.output output.value fault)
  | absent {builds : List BuildId} {id : BuildId} {b : Binding} {book : AddressBook}
      (hids : r.lists.get? .defaultX64 = some (builds.map (·.value)))
      (hpair : outputs.FirstUnlisted .defaultX64 builds id b book)
      (hget : book.get? id = none) :
    r.FirstFault outputs (.assembly (.missingInstance id b.output book))
  | miscounted {builds : List BuildId} {id : BuildId} {b : Binding} {book : AddressBook}
      {as : List Address} (hids : r.lists.get? .defaultX64 = some (builds.map (·.value)))
      (hpair : outputs.FirstUnlisted .defaultX64 builds id b book)
      (hget : book.get? id = some as) (hcount : as.length ≠ 1) :
    r.FirstFault outputs (.assembly (.wrongCount id b.output 1 as))

/-! ## The first fault of each phase -/

variable {outputs : Outputs} {t : Topology} {books : List BoundBook}

theorem Request.buildIds_of_first {ids : List Int64} {id : Int64} (h : First (· < 1) ids id) :
    buildIds t ids = .error (.buildIdBelowMinimum id) := by
  have hne : ids ≠ [] := List.ne_nil_of_mem h.mem
  rw [buildIds, if_neg (by simpa using hne), mapM_eq_error]
  refine ⟨id, (first_congr fun id _ => ?_).1 h, ?_⟩
  · rw [← BuildId.ofInt64?_eq_none_iff]
    cases BuildId.ofInt64? id <;> simp
  · rw [BuildId.ofInt64?_eq_none_iff.2 h.prop]

theorem Outputs.Reports.exists_lists_iff {name : String} {book : AddressBook}
    (h : outputs.Reports name book) (id : BuildId) :
    (∃ address, outputs.Lists name id address) ↔ ∃ address, book.get? id = some [address] := by
  refine exists_congr fun address => ⟨?_, fun hget => ⟨book, h, hget⟩⟩
  rintro ⟨book', hbook', hget⟩
  rwa [h.unique hbook']

namespace Topology

/-- The builds meet the bindings in the order in which they meet the books bound to these. -/
theorem first_bound {builds : List BuildId} {id : BuildId} {b : Binding}
    (hbooks : t.bindings.mapM (·.decode outputs) = .ok books)
    (h : First (fun (id, b) => ¬ ∃ address, outputs.Lists b.output id address)
      (builds ×ˢ t.bindings) (id, b)) :
    ∃ bound, bound.binding = b ∧ outputs.Reports bound.binding.output bound.book ∧
      First (fun (id, b) => ¬ ∃ address, b.book.get? id = some [address])
        (builds ×ˢ books) (id, bound) := by
  obtain ⟨hbindings, hreports⟩ := decodeAll_eq_ok hbooks
  have hlists : ∀ id, ∀ bound ∈ books,
      ((¬ ∃ address, outputs.Lists bound.binding.output id address) ↔
        ¬ ∃ address, bound.book.get? id = some [address]) :=
    fun id bound hbound => not_congr ((hreports bound hbound).exists_lists_iff id)
  rw [← hbindings, first_product, first_map] at h
  obtain ⟨hid, bound, rfl, hbound⟩ := h
  refine ⟨bound, rfl, hreports bound hbound.mem, first_product.2 ⟨?_, ?_⟩⟩
  · refine (first_congr fun id _ => ?_).1 hid
    simp only [List.mem_map, exists_exists_and_eq_and]
    exact exists_congr fun bound => and_congr_right (hlists id bound)
  · exact (first_congr (hlists id)).1 hbound

theorem assemble_of_firstUnreadable {b : Binding} {e : Error} (hb : outputs.FirstUnreadable t b)
    (h : b.decode outputs = .error e) (builds : List BuildId) :
    t.assemble builds outputs = .error e :=
  bind_eq_error.2 (.inl (decodeAll_eq_error.2 ⟨b, hb, h⟩))

theorem assemble_of_firstUnlisted {builds : List BuildId} {id : BuildId} {b : Binding}
    {book : AddressBook} {fault : AssemblyFault}
    (hpair : outputs.FirstUnlisted t builds id b book)
    (h : BoundBook.addresses ⟨b, book⟩ 1 id = .error fault) :
    t.assemble builds outputs = .error (.assembly fault) := by
  obtain ⟨books, hdecode⟩ := decodeAll_iff.2 hpair.readable
  obtain ⟨bound, rfl, hbound, hfirst⟩ := first_bound hdecode hpair.first
  obtain rfl := hpair.reports.unique hbound
  refine bind_eq_error.2 (.inr ⟨books, hdecode, mapError_eq_error.2 ⟨fault, ?_, rfl⟩⟩)
  exact (assembleAll_eq_error (binds_of_decodeAll hdecode)).2 ⟨id, bound, hfirst, h⟩

/-- Where no output is unreadable and no build is unlisted, assembly succeeds. -/
theorem exists_assemble_of_none {builds : List BuildId}
    (hreadable : ∀ b ∈ t.bindings, ∃ book, outputs.Reports b.output book)
    (hlisted : ∀ pair ∈ builds ×ˢ t.bindings,
      ∃ address, outputs.Lists pair.2.output pair.1 address) :
    ∃ is, t.assemble builds outputs = .ok is := by
  refine exists_assemble_iff.2 ⟨hreadable, fun b hb book hbook id hid => ?_⟩
  exact (hbook.exists_lists_iff id).1 (hlisted (id, b) (List.mem_product.2 ⟨hid, hb⟩))

end Topology

/-! ## Requests -/

namespace Request

variable {r : Request} {e : Error}

theorem FirstFault.assemble_eq (h : r.FirstFault outputs e) : r.assemble outputs = .error e := by
  cases h with
  | noTopology hempty => exact assemble_of_get?_eq_none outputs (isEmpty_iff.1 hempty)
  | noInstances hids =>
    rw [assemble_of_get? outputs hids]
    rfl
  | notPositive hids hid =>
    rw [assemble_of_get? outputs hids, buildIds_of_first hid]
    rfl
  | missing hne hids hb houtput =>
    rw [assemble_of_builds outputs hne hids]
    exact Topology.assemble_of_firstUnreadable hb
      (Binding.decode_eq_error_iff.2 (.inl ⟨houtput, rfl⟩)) _
  | undecodable hne hids hb houtput hfault =>
    rw [assemble_of_builds outputs hne hids]
    exact Topology.assemble_of_firstUnreadable hb
      (Binding.decode_eq_error_iff.2 (.inr ⟨_, _, houtput, hfault, rfl⟩)) _
  | absent hids hpair hget =>
    have hne := List.ne_nil_of_mem (List.mem_product.1 hpair.first.mem).1
    rw [assemble_of_builds outputs hne hids]
    exact Topology.assemble_of_firstUnlisted hpair
      (BoundBook.addresses_eq_error_iff.2 (.inl ⟨hget, rfl⟩))
  | miscounted hids hpair hget hcount =>
    have hne := List.ne_nil_of_mem (List.mem_product.1 hpair.first.mem).1
    rw [assemble_of_builds outputs hne hids]
    exact Topology.assemble_of_firstUnlisted hpair
      (BoundBook.addresses_eq_error_iff.2 (.inr ⟨_, hget, hcount, rfl⟩))

theorem exists_firstFault_of_unreadable {builds : List BuildId} {b : Binding} (hne : builds ≠ [])
    (hids : r.lists.get? .defaultX64 = some (builds.map (·.value)))
    (hb : outputs.FirstUnreadable .defaultX64 b) : ∃ e, r.FirstFault outputs e := by
  cases houtput : outputs.get? b.output with
  | none => exact ⟨_, .missing hne hids hb houtput⟩
  | some output =>
    cases hdecode : AddressBook.decode output.value with
    | ok book => exact absurd ⟨book, output, houtput, hdecode⟩ hb.prop
    | error fault => exact ⟨_, .undecodable hne hids hb houtput hdecode⟩

theorem exists_firstFault_of_unlisted {builds : List BuildId} {id : BuildId} {b : Binding}
    {book : AddressBook} (hids : r.lists.get? .defaultX64 = some (builds.map (·.value)))
    (hpair : outputs.FirstUnlisted .defaultX64 builds id b book) :
    ∃ e, r.FirstFault outputs e := by
  cases hget : book.get? id with
  | none => exact ⟨_, .absent hids hpair hget⟩
  | some as =>
    refine ⟨_, .miscounted hids hpair hget fun hcount => ?_⟩
    obtain ⟨address, rfl⟩ := List.length_eq_one_iff.1 hcount
    exact hpair.first.prop ⟨address, book, hpair.reports, hget⟩

/-- Once the request is through its checks, assembly succeeds or has a first fault. -/
theorem exists_firstFault_of_builds {builds : List BuildId} (hne : builds ≠ [])
    (hids : r.lists.get? .defaultX64 = some (builds.map (·.value))) :
    (∃ is, r.assemble outputs = .ok is) ∨ ∃ e, r.FirstFault outputs e := by
  by_cases hreadable : ∀ b ∈ Topology.bindings .defaultX64, ∃ book, outputs.Reports b.output book
  · by_cases hlisted : ∀ pair ∈ builds ×ˢ Topology.bindings .defaultX64,
        ∃ address, outputs.Lists pair.2.output pair.1 address
    · rw [assemble_of_builds outputs hne hids]
      exact .inl (Topology.exists_assemble_of_none hreadable hlisted)
    · simp only [not_forall, exists_prop] at hlisted
      obtain ⟨⟨id, b⟩, hfirst⟩ := exists_first_iff.2 hlisted
      obtain ⟨book, hbook⟩ := hreadable b (List.mem_product.1 hfirst.mem).2
      exact .inr (exists_firstFault_of_unlisted hids ⟨hreadable, hfirst, hbook⟩)
  · simp only [not_forall, exists_prop] at hreadable
    obtain ⟨b, hb⟩ := exists_first_iff.2 hreadable
    exact .inr (exists_firstFault_of_unreadable hne hids hb)

theorem exists_firstFault (r : Request) (outputs : Outputs) :
    (∃ is, r.assemble outputs = .ok is) ∨ ∃ e, r.FirstFault outputs e := by
  cases hids : r.lists.get? .defaultX64 with
  | none => exact .inr ⟨_, .noTopology (isEmpty_iff.2 hids)⟩
  | some ids =>
    by_cases hempty : ids = []
    · exact .inr ⟨_, .noInstances (hempty ▸ hids)⟩
    · by_cases hlow : ∃ id ∈ ids, id < 1
      · obtain ⟨id, hid⟩ := exists_first_iff.2 hlow
        exact .inr ⟨_, .notPositive hids hid⟩
      · have hpositive : ∀ id ∈ ids, 1 ≤ id := fun id hid =>
          Int64.not_lt.1 fun hlt => hlow ⟨id, hid, hlt⟩
        obtain ⟨builds, rfl⟩ := BuildId.exists_map_value_iff.2 hpositive
        exact exists_firstFault_of_builds (by simpa using hempty) hids

theorem FirstFault.of_assemble (h : r.assemble outputs = .error e) : r.FirstFault outputs e := by
  cases exists_firstFault r outputs with
  | inl hok =>
    obtain ⟨is, his⟩ := hok
    cases h.symm.trans his
  | inr hfault =>
    obtain ⟨e', he'⟩ := hfault
    cases h.symm.trans he'.assemble_eq
    exact he'

/-- Every topology is supported, and every binding is to a machine that instances have. -/
theorem supported_and_placed {fault : AssemblyFault}
    (h : r.assemble outputs = .error (.assembly fault)) :
    (∀ t, fault ≠ .unsupportedTopology t) ∧ ∀ t role index, fault ≠ .noMachine t role index := by
  cases FirstFault.of_assemble h <;> exact ⟨nofun, nofun⟩

end Request

/-- Assembly fails with the first fault, which is never one of the configuration, of the tool or of
    the system, and the message names what the fault is about. -/
theorem Request.assemble_eq_error_iff_firstFault (r : Request) (outputs : Outputs) :
    (∀ e, r.assemble outputs = .error e ↔ r.FirstFault outputs e) ∧
    ∀ e, r.assemble outputs = .error e → e.OfOutputs ∧
      ∀ fault, e = .assembly fault → ∀ subject ∈ fault.subjects, Text.Within subject e.message := by
  refine ⟨fun e => ⟨FirstFault.of_assemble, FirstFault.assemble_eq⟩,
    fun e h => ⟨assemble_eq_error h, ?_⟩⟩
  rintro fault rfl subject hsubject
  exact (fault.within_message hsubject).append_left _

-- The request is checked before any output is looked up.
example : (Request.empty.insert .defaultX64 [3, 0, -1]).assemble Dict.empty =
    .error (.assembly (.buildIdBelowMinimum 0)) := rfl

end Sandbox
