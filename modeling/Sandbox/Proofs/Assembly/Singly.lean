-- SUMMARY: Assembling several builds at once against assembling each of them by itself.
import Sandbox.Proofs.Assembly

/-!
# Builds one by one

What a request for several builds yields is the union of what requests for one
build each yield, and it fails as the first of these does that fails. So the
builds do not depend on each other: neither their order nor repetitions matter
to what is yielded.
-/

namespace Sandbox

open Checks

/-! ## Builds of a topology -/

namespace Topology

variable {t : Topology} {outputs : Outputs} {books : List BoundBook} {builds : List BuildId}
  {is : Instances} {id : BuildId} {i : Instance}

theorem get?_assembleAll (h : t.assembleAll books builds = .ok is) :
    is.get? id = some i ↔ id ∈ builds ∧ t.assembleInstance books id = .ok i := by
  obtain ⟨hkeys, hinstances⟩ := assembleAll_eq_ok h
  constructor
  · intro hi
    exact ⟨(hkeys id).1 (Dict.mem_keys_iff.2 ⟨i, hi⟩), hinstances id i hi⟩
  · intro hid
    obtain ⟨i', hi'⟩ := Dict.mem_keys_iff.1 ((hkeys id).2 hid.1)
    rw [hi', Except.ok.inj ((hinstances id i' hi').symm.trans hid.2)]

theorem assembleAll_singleton (t : Topology) (books : List BoundBook) (id : BuildId) :
    t.assembleAll books [id] = (t.assembleInstance books id).map (Dict.empty.insert id) := by
  rw [assembleAll, List.foldlM_cons]
  cases t.assembleInstance books id <;> rfl

theorem assembleAll_eq_first_error {fault : AssemblyFault} :
    t.assembleAll books builds = .error fault ↔
      ∃ id, First (fun id => ∃ fault, t.assembleInstance books id = .error fault) builds id ∧
        t.assembleInstance books id = .error fault := by
  simp only [assembleAll_eq, mapM_eq_error, map_eq_error]

/-- The instances of several builds are those that each of them gets by itself. -/
theorem get?_assemble (h : t.assemble builds outputs = .ok is) :
    is.get? id = some i ↔
      ∃ id' ∈ builds, ∃ found, t.assemble [id'] outputs = .ok found ∧ found.get? id = some i := by
  obtain ⟨books, hbooks, his⟩ := bind_eq_ok.1 h
  rw [mapError_eq_ok] at his
  simp only [get?_assembleAll his, assemble_of_decodeAll_eq_ok hbooks, mapError_eq_ok]
  constructor
  · intro hid
    have hfound : t.assembleAll books [id] = .ok (Dict.empty.insert id i) := by
      rw [assembleAll_singleton, hid.2]
      rfl
    exact ⟨id, hid.1, _, hfound, (get?_assembleAll hfound).2 ⟨List.mem_cons_self, hid.2⟩⟩
  · intro hsingle
    obtain ⟨id', hid', found, hfound, hi⟩ := hsingle
    obtain ⟨hmem, hi⟩ := (get?_assembleAll hfound).1 hi
    exact ⟨List.mem_singleton.1 hmem ▸ hid', hi⟩

theorem exists_assemble_of_singles (hne : builds ≠ [])
    (h : ∀ id ∈ builds, ∃ is, t.assemble [id] outputs = .ok is) :
    ∃ is, t.assemble builds outputs = .ok is := by
  simp only [exists_assemble_iff, List.mem_singleton, forall_eq] at h ⊢
  obtain ⟨first, hfirst⟩ := List.exists_mem_of_ne_nil builds hne
  exact ⟨(h first hfirst).1, fun b hb book hbook id hid => (h id hid).2 b hb book hbook⟩

/-- Several builds fail with the error of the first of them that fails by itself. -/
theorem assemble_of_first_error {e : Error}
    (h : First (fun id => ∃ e, t.assemble [id] outputs = .error e) builds id)
    (he : t.assemble [id] outputs = .error e) : t.assemble builds outputs = .error e := by
  cases hbooks : t.bindings.mapM (·.decode outputs) with
  | error e' =>
    rw [assemble_of_decodeAll_eq_error hbooks] at he ⊢
    exact he
  | ok books =>
    have hsingle : ∀ id e, t.assemble [id] outputs = .error e ↔
        ∃ fault, t.assembleInstance books id = .error fault ∧ Error.assembly fault = e := by
      intro id e
      rw [assemble_of_decodeAll_eq_ok hbooks, assembleAll_singleton, mapError_eq_error]
      simp only [map_eq_error]
    obtain ⟨fault, hfault, rfl⟩ := (hsingle id e).1 he
    rw [assemble_of_decodeAll_eq_ok hbooks, mapError_eq_error]
    refine ⟨fault, assembleAll_eq_first_error.2 ⟨id, (first_congr fun id _ => ?_).1 h, hfault⟩, rfl⟩
    simp only [hsingle, exists_comm (α := Error), exists_eq_right']

end Topology

/-! ## Requests -/

namespace Request

/-- A request for some builds. -/
def ofIds (ids : List Int64) : Request := empty.insert .defaultX64 ids

theorem get?_ofIds (ids : List Int64) : (ofIds ids).lists.get? .defaultX64 = some ids := rfl

theorem assemble_ofIds {builds : List BuildId} (hne : builds ≠ []) (outputs : Outputs) :
    (ofIds (builds.map (·.value))).assemble outputs =
      Topology.assemble .defaultX64 builds outputs :=
  assemble_of_builds outputs hne (get?_ofIds _)

theorem assemble_ofIds_singleton (id : BuildId) (outputs : Outputs) :
    (ofIds [id.value]).assemble outputs = Topology.assemble .defaultX64 [id] outputs :=
  assemble_ofIds (List.cons_ne_nil id []) outputs

/-- A request for some builds is assembled as the requests for one of them each are. -/
structure AssembledSingly (ids : List Int64) (outputs : Outputs) : Prop where
  /-- If all of these succeed, so does the request, with the union of what they yield. -/
  union : (∀ id ∈ ids, ∃ is, (ofIds [id]).assemble outputs = .ok is) →
    ∃ is, (ofIds ids).assemble outputs = .ok is ∧ ∀ build i, is.get? build = some i ↔
      ∃ id ∈ ids, ∃ found, (ofIds [id]).assemble outputs = .ok found ∧ found.get? build = some i
  /-- Otherwise the request fails with the error of the first of them that fails. -/
  error : (¬ ∀ id ∈ ids, ∃ is, (ofIds [id]).assemble outputs = .ok is) →
    ∃ id e, First (fun id => ∃ e, (ofIds [id]).assemble outputs = .error e) ids id ∧
      (ofIds [id]).assemble outputs = .error e ∧ (ofIds ids).assemble outputs = .error e

theorem assembledSingly_map_value {builds : List BuildId} (hne : builds ≠ [])
    (outputs : Outputs) : AssembledSingly (builds.map (·.value)) outputs := by
  constructor
  case union =>
    intro hall
    rw [List.forall_mem_map] at hall
    simp only [assemble_ofIds_singleton] at hall
    simp only [List.mem_map, exists_exists_and_eq_and, assemble_ofIds_singleton,
      assemble_ofIds hne]
    obtain ⟨is, his⟩ := Topology.exists_assemble_of_singles hne hall
    exact ⟨is, his, fun build i => Topology.get?_assemble his⟩
  case error =>
    intro hall
    simp only [not_forall, exists_prop, ← exists_error_iff] at hall
    obtain ⟨id, hfirst⟩ := exists_first_iff.2 hall
    obtain ⟨e, he⟩ := hfirst.prop
    refine ⟨id, e, hfirst, he, ?_⟩
    rw [first_map] at hfirst
    obtain ⟨build, rfl, hbuild⟩ := hfirst
    simp only [assemble_ofIds_singleton] at hbuild he
    rw [assemble_ofIds hne]
    exact Topology.assemble_of_first_error hbuild he

namespace AssembledSingly

variable {ids ids' : List Int64} {outputs : Outputs}

/-- Neither the order of the builds nor repetitions matter to what is yielded. -/
theorem of_same_ids (h : AssembledSingly ids outputs) (h' : AssembledSingly ids' outputs)
    (hsame : ∀ id, id ∈ ids' ↔ id ∈ ids) :
    (∃ is, (ofIds ids).assemble outputs = .ok is ∧ (ofIds ids').assemble outputs = .ok is) ∨
      (∃ e, (ofIds ids).assemble outputs = .error e) ∧
        ∃ e, (ofIds ids').assemble outputs = .error e := by
  by_cases hall : ∀ id ∈ ids, ∃ is, (ofIds [id]).assemble outputs = .ok is
  · obtain ⟨is, his, hunion⟩ := h.union hall
    obtain ⟨is', his', hunion'⟩ := h'.union fun id hid => hall id ((hsame id).1 hid)
    have heq : is = is' := by
      refine Dict.ext_get? fun build => Option.ext fun i => ?_
      simp only [hunion, hunion', hsame]
    exact .inl ⟨is, his, heq ▸ his'⟩
  · have hall' : ¬ ∀ id ∈ ids', ∃ is, (ofIds [id]).assemble outputs = .ok is := by
      simpa only [hsame] using hall
    obtain ⟨_, e, -, -, he⟩ := h.error hall
    obtain ⟨_, e', -, -, he'⟩ := h'.error hall'
    exact .inr ⟨⟨e, he⟩, ⟨e', he'⟩⟩

end AssembledSingly

/-- The builds of a request are assembled independently of each other, so requests for the same
    builds, in whatever order and with whatever repetitions, yield the same instances or both
    fail. -/
theorem assembles_builds_independently {ids : List Int64} (hne : ids ≠ [])
    (hpositive : ∀ id ∈ ids, 1 ≤ id) (outputs : Outputs) :
    AssembledSingly ids outputs ∧
      ∀ ids', (∀ id, id ∈ ids' ↔ id ∈ ids) →
        (∃ is, (ofIds ids).assemble outputs = .ok is ∧ (ofIds ids').assemble outputs = .ok is) ∨
          (∃ e, (ofIds ids).assemble outputs = .error e) ∧
            ∃ e, (ofIds ids').assemble outputs = .error e := by
  have hsingly : ∀ ids, ids ≠ [] → (∀ id ∈ ids, 1 ≤ id) → AssembledSingly ids outputs := by
    intro ids hne hpositive
    obtain ⟨builds, rfl⟩ := BuildId.exists_map_value_iff.2 hpositive
    exact assembledSingly_map_value (by simpa using hne) outputs
  have h := hsingly ids hne hpositive
  refine ⟨h, fun ids' hsame => h.of_same_ids (hsingly ids' ?_ ?_) hsame⟩
  · obtain ⟨id, hid⟩ := List.exists_mem_of_ne_nil ids hne
    exact List.ne_nil_of_mem ((hsame id).2 hid)
  · intro id hid
    exact hpositive id ((hsame id).1 hid)

theorem one_le_of_mem_repeated : ∀ id ∈ ([12, 7, 12] : List Int64), 1 ≤ id :=
  BuildId.exists_map_value_iff.1 ⟨[⟨12, by decide⟩, ⟨7, by decide⟩, ⟨12, by decide⟩], rfl⟩

theorem assembles_repeated_build :
    ([12, 7, 12] : List Int64) ≠ [] ∧ (∀ id ∈ ([12, 7, 12] : List Int64), 1 ≤ id) ∧
      AssembledSingly [12, 7, 12] unevenOutputs ∧
      ∀ ids', (∀ id, id ∈ ids' ↔ id ∈ ([12, 7, 12] : List Int64)) →
        (∃ is, (ofIds [12, 7, 12]).assemble unevenOutputs = .ok is ∧
          (ofIds ids').assemble unevenOutputs = .ok is) ∨
          (∃ e, (ofIds [12, 7, 12]).assemble unevenOutputs = .error e) ∧
            ∃ e, (ofIds ids').assemble unevenOutputs = .error e :=
  ⟨List.cons_ne_nil _ _, one_le_of_mem_repeated,
    assembles_builds_independently (List.cons_ne_nil _ _) one_le_of_mem_repeated unevenOutputs⟩

end Request

end Sandbox
