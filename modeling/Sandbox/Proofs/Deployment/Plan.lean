-- SUMMARY: A start yields the addresses that the tool reports, from request to instances.
import Sandbox.Proofs.AddressBook
import Sandbox.Proofs.Deployment.Script
import Sandbox.Proofs.Output

/-!
# Planned addresses

A plan gives an address to every slot of every build. If the tool carries it out
and reports it in the outputs, in whatever layout and order and among whatever
other builds, a start yields instances that hold exactly the planned addresses.
-/

namespace Sandbox

-- ---------------------------------------------------------------------------
-- Plans
-- ---------------------------------------------------------------------------

/-- The address of each field of each build's machines. -/
abbrev Plan := BuildId → Role → Field → Address

namespace Plan

def machine (plan : Plan) (id : BuildId) (role : Role) : Machine :=
  ⟨some (plan id role .address), some (plan id role .controlAddress)⟩

/-- The instance of a build, with one machine in each role. -/
def deployed (plan : Plan) (id : BuildId) : Instance where
  topology := .defaultX64
  loadGenerators := [plan.machine id .loadGenerator]
  systemsUnderTest := [plan.machine id .systemUnderTest]
  backends := [plan.machine id .backend]

theorem get_machine (plan : Plan) (id : BuildId) (role : Role) (field : Field) :
    (plan.machine id role).get field = some (plan id role field) := by
  cases field <;> rfl

theorem eq_deployed {plan : Plan} {id : BuildId} {i : Instance}
    (htopology : i.topology = .defaultX64)
    (hmachines : ∀ role, i.machines role = [plan.machine id role]) : i = plan.deployed id := by
  refine Instance.ext_machines htopology fun role => (hmachines role).trans ?_
  cases role <;> rfl

end Plan

-- ---------------------------------------------------------------------------
-- Outputs that report a plan
-- ---------------------------------------------------------------------------

/-- Every bound output is present and lists the planned address of its slot for each build. -/
def Outputs.Realize (outputs : Outputs) (plan : Plan) (ids : List BuildId) : Prop :=
  ∀ b ∈ Topology.bindings .defaultX64, ∃ output, outputs.get? b.output = some output ∧
    AddressBook.Assigns output.value ids fun id => plan id b.slot.role b.slot.field

namespace Outputs.Realize

variable {outputs : Outputs} {plan : Plan} {ids : List BuildId}

theorem exists_reports (h : outputs.Realize plan ids) :
    ∀ b ∈ Topology.bindings .defaultX64, ∃ book, outputs.Reports b.output book ∧
      ∀ id ∈ ids, book.get? id = some [plan id b.slot.role b.slot.field] := by
  intro b hb
  obtain ⟨output, houtput, hassigns⟩ := h b hb
  obtain ⟨book, hbook, hlists⟩ := AddressBook.decode_of_assigns hassigns
  exact ⟨book, ⟨output, houtput, hbook⟩, hlists⟩

theorem eq_of_lists (h : outputs.Realize plan ids) {b : Binding}
    (hb : b ∈ Topology.bindings .defaultX64) {id : BuildId} (hid : id ∈ ids) {address : Address}
    (hlists : outputs.Lists b.output id address) :
    address = plan id b.slot.role b.slot.field := by
  obtain ⟨book, hreports, hget⟩ := h.exists_reports b hb
  exact hlists.unique ⟨book, hreports, hget id hid⟩

/-- An instance that the outputs describe is the planned one. -/
theorem eq_deployed (h : outputs.Realize plan ids) {id : BuildId} (hid : id ∈ ids) {i : Instance}
    (hi : Topology.Describes .defaultX64 outputs id i) : i = plan.deployed id := by
  refine Plan.eq_deployed hi.topology fun role => ?_
  obtain ⟨m, hm, hfields⟩ := hi.machine role
  have hget : m = plan.machine id role := by
    refine Machine.ext_get fun field => ?_
    obtain ⟨⟨b, hb, hslot⟩, hall⟩ := hfields field
    obtain ⟨address, hlists, haddress⟩ := hall b hb hslot
    rw [haddress, h.eq_of_lists hb hid hlists, hslot, Plan.get_machine]
  rw [hm, hget]

/-- Outputs that report a plan are assembled into the planned instances. -/
theorem assemble (h : outputs.Realize plan ids) (hnodup : ids.Nodup) :
    ∃ is, Topology.assemble .defaultX64 ids outputs = .ok is ∧ is.keys.Perm ids ∧
      ∀ id ∈ ids, is.get? id = some (plan.deployed id) := by
  have hreports : ∀ b ∈ Topology.bindings .defaultX64, ∃ book, outputs.Reports b.output book := by
    intro b hb
    obtain ⟨book, hbook, -⟩ := h.exists_reports b hb
    exact ⟨book, hbook⟩
  have hsingle : ∀ b ∈ Topology.bindings .defaultX64, ∀ book, outputs.Reports b.output book →
      ∀ id ∈ ids, ∃ address, book.get? id = some [address] := by
    intro b hb book hbook id hid
    obtain ⟨book', hbook', hget⟩ := h.exists_reports b hb
    obtain rfl := hbook.unique hbook'
    exact ⟨_, hget id hid⟩
  obtain ⟨is, his⟩ := Topology.exists_assemble_iff.2 ⟨hreports, hsingle⟩
  obtain ⟨hkeys, hdescribes⟩ := Topology.assemble_eq_ok his
  refine ⟨is, his, (List.perm_ext_iff_of_nodup is.nodup_keys hnodup).2 hkeys, fun id hid => ?_⟩
  obtain ⟨i, hi⟩ := Dict.mem_keys_iff.1 ((hkeys id).2 hid)
  rw [hi, h.eq_deployed hid (hdescribes id i hi)]

end Outputs.Realize

theorem Topology.nodup_outputs (t : Topology) : (t.bindings.map (·.output)).Nodup := by
  cases t; decide

/-- The outputs that report a plan in compact texts, behind members for other builds. -/
def Plan.report (plan : Plan) (ids : List BuildId) (others : List (String × List String)) :
    Outputs :=
  .ofList ((Topology.bindings .defaultX64).map fun b =>
    (b.output, ⟨false, .null, (AddressBook.document (others ++ AddressBook.assigned ids fun id =>
      plan id b.slot.role b.slot.field)).text⟩))

theorem Plan.realize_report (plan : Plan) {ids : List BuildId}
    {others : List (String × List String)}
    (hothers : ∀ key values, (key, values) ∈ others →
      ∃ id as, id ∉ ids ∧ AddressBook.Denotes key values id as) :
    (plan.report ids others).Realize plan ids := by
  intro b hb
  refine ⟨_, Dict.get?_ofList_of_mem (List.mem_map_of_mem hb) fun output hmem => ?_,
    _, others, AddressBook.writes_text_document _, List.perm_append_comm, hothers⟩
  obtain ⟨b', hb', heq⟩ := List.mem_map.1 hmem
  obtain ⟨hname, rfl⟩ := Prod.mk.inj heq
  obtain rfl := List.inj_on_of_nodup_map (Topology.nodup_outputs .defaultX64) hb' hb hname
  rfl

/-- Printed as one object, the outputs that report a plan are read back. -/
theorem Plan.ofBytes?_report (plan : Plan) (ids : List BuildId)
    (others : List (String × List String)) :
    Outputs.ofBytes? (Text.Utf8.bytes (plan.report ids others).printed) =
      some (plan.report ids others) := by
  refine Outputs.ofBytes?_printed fun name o ho => ?_
  obtain ⟨b, -, hentry⟩ := List.mem_map.1 (Dict.mem_of_get?_ofList ho)
  obtain ⟨-, rfl⟩ := Prod.mk.inj hentry
  have hmembers := AddressBook.none_not_mem_document (others ++ AddressBook.assigned ids fun id =>
    plan id b.slot.role b.slot.field)
  refine ⟨_, Output.ofValue?_eq_some_iff.2 ⟨_, Json.Document.writtenAs_text hmembers, ?_, rfl⟩⟩
  rw [Json.Document.text?_eq_some_iff, Json.Document.text_eq]
  exact Json.symbols_ofList_filterMap hmembers

-- ---------------------------------------------------------------------------
-- From request to instances
-- ---------------------------------------------------------------------------

namespace Deployment

/-- If the tool succeeds and its outputs report a plan, a start yields one instance for each
    requested build, with exactly the planned addresses. -/
theorem start_realizes_plan {c : Configuration} {a : Answers} {r : Request} {ids : List BuildId}
    {plan : Plan} {outputs : Outputs} (hc : c.directory ≠ "" ∧ c.program ≠ "")
    (hids : r.lists.get? .defaultX64 = some (ids.map (·.value))) (hne : ids ≠ [])
    (hnodup : ids.Nodup) (hinit : a.init c.directory = .ok ())
    (happly : a.apply [Assignment.text ⟨.defaultX64, ids⟩] = .ok ())
    (houtput : a.output = .ok outputs) (hrealize : outputs.Realize plan ids) :
    ∃ is, (startRun c a r).value = .ok is ∧ is.keys.Perm ids ∧
      ∀ id ∈ ids, is.get? id = some (plan.deployed id) := by
  have hasks : r.Asks ids := ⟨hids, hne, hnodup⟩
  obtain ⟨is, his, hkeys, hget⟩ := hrealize.assemble hnodup
  have hassemble : r.assemble outputs = .ok is := Request.assemble_eq_ok_iff.2 ⟨ids, hne, hids, his⟩
  have hrun := startRun_eq_follow (a := a) (Request.assignments_eq_ok.2 ⟨ids, hasks, rfl⟩)
    (Configuration.validate_eq_ok.2 hc)
  refine ⟨is, ?_, hkeys, hget⟩
  rw [hrun, startScript, hasks.assignmentTexts_eq]
  simp only [Answers.follow, Answers.answer, hinit, happly, houtput, Except.map]
  exact hassemble

/-- Two builds, not in ascending order. -/
def twoBuilds : List BuildId := [⟨12, by decide⟩, ⟨7, by decide⟩]

/-- A plan with addresses of both versions, among them one with zeros left out and one that
    carries a version 4 address. -/
def mixedPlan : Plan := fun id role field =>
  match role, field with
  | .loadGenerator, .address => .v6 [0x2001, 0xDB8, 0, 0, 0, 0, 0, 1] rfl
  | .systemUnderTest, .address => .v6 [0, 0, 0, 0, 0, 0xFFFF, 0x0A00, 1] rfl
  | _, _ => .v4 ⟨10, 0, 0, id.value.toUInt64.toUInt8⟩

/-- A third build, whose key is written with a sign. -/
def thirdBuild : List (String × List String) := [("+9", ["::1", "10.0.0.9"])]

theorem denotes_of_mem_thirdBuild (key : String) (values : List String)
    (h : (key, values) ∈ thirdBuild) :
    ∃ id as, id ∉ twoBuilds ∧ AddressBook.Denotes key values id as := by
  obtain ⟨rfl, rfl⟩ := Prod.mk.inj (List.mem_singleton.1 h)
  refine ⟨⟨9, by decide⟩, [.v6 [0, 0, 0, 0, 0, 0, 0, 1] rfl, .v4 ⟨10, 0, 0, 9⟩], by decide, rfl,
    by decide, ?_⟩
  exact .cons rfl (.cons rfl .nil)

theorem start_realizes_mixedPlan :
    ∃ is, (startRun {}
        ⟨fun _ => .ok (), fun _ => .ok (), .ok (mixedPlan.report twoBuilds thirdBuild)⟩
        (Request.empty.insert .defaultX64 [12, 7])).value = .ok is ∧
      is.keys.Perm twoBuilds ∧ ∀ id ∈ twoBuilds, is.get? id = some (mixedPlan.deployed id) :=
  start_realizes_plan (by decide) rfl (by decide) (by decide) rfl rfl rfl
    (mixedPlan.realize_report denotes_of_mem_thirdBuild)

end Deployment
end Sandbox
