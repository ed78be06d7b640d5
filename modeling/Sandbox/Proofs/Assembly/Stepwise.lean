-- SUMMARY: Assembly against the procedure that decodes an output anew for every build.
import Sandbox.Proofs.Assembly

/-!
# Stepwise assembly

The stepwise procedure takes each build and each output by itself: it looks the
output up, decodes it and fills one slot, and stops at the first failure. Assembly
decodes all outputs before it fills the first slot. Both yield the same instances.
The faults they report differ where an output is no book and one ahead of it does
not list one address for the first build.
-/

namespace Sandbox

open Checks

/-! ## The procedure -/

namespace Topology

/-- Looks up the output of a binding, decodes it and fills the slot for one build. -/
def fillFrom (t : Topology) (outputs : Outputs) (id : BuildId) (i : Instance) (b : Binding) :
    Except Error Instance := do
  let bound ← b.decode outputs
  (t.fill id i bound).mapError .assembly

/-- The instance of one build, filled from one output after the other. -/
def assembleStepwise (t : Topology) (outputs : Outputs) (id : BuildId) : Except Error Instance :=
  t.bindings.foldlM (t.fillFrom outputs id) t.placeholder

/-- The instances of a list of builds, one after the other. -/
def assembleEach (t : Topology) (ids : List BuildId) (outputs : Outputs) :
    Except Error Instances :=
  ids.foldlM (fun found id => return found.insert id (← t.assembleStepwise outputs id)) Dict.empty

end Topology

/-- The requested instances, one build and one output after the other. -/
def Request.assembleEach (r : Request) (outputs : Outputs) : Except Error Instances :=
  r.assembleBy fun t ids => t.assembleEach ids outputs

/-! ## One build -/

/-- The books ahead of the first output that is missing or no book. -/
def Outputs.booksAhead (outputs : Outputs) : List Binding → List BoundBook
  | [] => []
  | b :: rest =>
    match b.decode outputs with
    | .ok bound => bound :: outputs.booksAhead rest
    | .error _ => []

theorem Outputs.booksAhead_eq {outputs : Outputs} {bs : List Binding} {books : List BoundBook}
    (h : bs.mapM (·.decode outputs) = .ok books) : outputs.booksAhead bs = books := by
  rw [mapM_eq_ok] at h
  induction h with
  | nil => rfl
  | cons hbound _ ih =>
    unfold booksAhead
    rw [hbound, ih]

theorem Outputs.binding_mem_of_mem_booksAhead {outputs : Outputs} {bs : List Binding} :
    ∀ bound ∈ outputs.booksAhead bs, bound.binding ∈ bs := by
  induction bs with
  | nil => nofun
  | cons b bs ih =>
    intro bound hbound
    unfold booksAhead at hbound
    split at hbound
    · next first hfirst =>
      rcases List.mem_cons.1 hbound with rfl | hrest
      · rw [(Binding.decode_eq_ok.1 hfirst).1]
        exact List.mem_cons_self
      · exact List.mem_cons_of_mem _ (ih bound hrest)
    · cases hbound

namespace Topology

theorem binds_booksAhead (t : Topology) (outputs : Outputs) :
    t.Binds (outputs.booksAhead t.bindings) := Outputs.binding_mem_of_mem_booksAhead

section Filling

variable {t : Topology} {outputs : Outputs} {b : Binding}

theorem fillFrom_of_decode_eq_ok {bound : BoundBook} (h : b.decode outputs = .ok bound)
    (id : BuildId) (i : Instance) :
    t.fillFrom outputs id i b = (t.fill id i bound).mapError .assembly := by
  rw [fillFrom, h]
  rfl

theorem fillFrom_of_decode_eq_error {e : Error} (h : b.decode outputs = .error e) (id : BuildId)
    (i : Instance) : t.fillFrom outputs id i b = .error e := by
  rw [fillFrom, h]
  rfl

end Filling

/-- Filling from outputs fills from the books ahead, and then fails if an output is no book. -/
theorem foldlM_fillFrom (t : Topology) (outputs : Outputs) (id : BuildId) (i : Instance)
    (bs : List Binding) :
    bs.foldlM (t.fillFrom outputs id) i = (do
      let filled ← ((outputs.booksAhead bs).foldlM (t.fill id) i).mapError .assembly
      let _ ← bs.mapM (·.decode outputs)
      return filled) := by
  induction bs generalizing i with
  | nil => rfl
  | cons b bs ih =>
    rw [List.foldlM_cons, List.mapM_cons]
    unfold Outputs.booksAhead
    cases hdecode : b.decode outputs with
    | error e =>
      rw [fillFrom_of_decode_eq_error hdecode]
      rfl
    | ok bound =>
      simp only [fillFrom_of_decode_eq_ok hdecode, List.foldlM_cons]
      cases t.fill id i bound with
      | error fault => rfl
      | ok i' =>
        show bs.foldlM (t.fillFrom outputs id) i' = _
        rw [ih]
        cases bs.mapM (·.decode outputs) with
        | error e => rfl
        | ok books => rfl

theorem assembleStepwise_eq (t : Topology) (outputs : Outputs) (id : BuildId) :
    t.assembleStepwise outputs id = (do
      let i ← (t.assembleInstance (outputs.booksAhead t.bindings) id).mapError .assembly
      let _ ← t.bindings.mapM (·.decode outputs)
      return i) :=
  foldlM_fillFrom t outputs id t.placeholder t.bindings

/-! ## All builds -/

variable {t : Topology} {outputs : Outputs}

theorem assembleAll_cons_of_eq_error {books : List BoundBook} {first : BuildId}
    {fault : AssemblyFault} (h : t.assembleInstance books first = .error fault)
    (rest : List BuildId) : t.assembleAll books (first :: rest) = .error fault := by
  rw [assembleAll, List.foldlM_cons, h]
  rfl

/-- If all outputs are books, the stepwise procedure is assembly. -/
theorem assembleEach_of_decodeAll {books : List BoundBook}
    (h : t.bindings.mapM (·.decode outputs) = .ok books) (ids : List BuildId) :
    t.assembleEach ids outputs = t.assemble ids outputs := by
  have hstep : (fun (found : Instances) id => do
        return found.insert id (← t.assembleStepwise outputs id)) =
      fun found id => (do
        return found.insert id (← t.assembleInstance books id)).mapError Error.assembly := by
    funext found id
    rw [assembleStepwise_eq, Outputs.booksAhead_eq h, h]
    cases t.assembleInstance books id with
    | error fault => rfl
    | ok i => rfl
  rw [assembleEach, hstep, foldlM_mapError, assemble_of_decodeAll_eq_ok h]
  rfl

/-- The first build is filled from the books ahead; after that, all is as in assembly. -/
theorem assembleEach_cons (t : Topology) (first : BuildId) (rest : List BuildId)
    (outputs : Outputs) :
    t.assembleEach (first :: rest) outputs = (do
      let _ ← (t.assembleInstance (outputs.booksAhead t.bindings) first).mapError .assembly
      t.assemble (first :: rest) outputs) := by
  cases hbooks : t.bindings.mapM (·.decode outputs) with
  | error e =>
    rw [assembleEach, List.foldlM_cons, assembleStepwise_eq, hbooks,
      assemble_of_decodeAll_eq_error hbooks]
    cases t.assembleInstance (outputs.booksAhead t.bindings) first with
    | error fault => rfl
    | ok i => rfl
  | ok books =>
    rw [assembleEach_of_decodeAll hbooks, Outputs.booksAhead_eq hbooks]
    cases hfirst : t.assembleInstance books first with
    | error fault =>
      rw [assemble_of_decodeAll_eq_ok hbooks, assembleAll_cons_of_eq_error hfirst]
      rfl
    | ok i => rfl

/-- What assembly yields is what the stepwise procedure yields. -/
theorem assembleEach_eq_ok_iff {first : BuildId} {rest : List BuildId} {is : Instances} :
    t.assembleEach (first :: rest) outputs = .ok is ↔
      t.assemble (first :: rest) outputs = .ok is := by
  constructor
  · intro h
    rw [assembleEach_cons, bind_eq_ok] at h
    obtain ⟨_, -, his⟩ := h
    exact his
  · intro h
    cases hbooks : t.bindings.mapM (·.decode outputs) with
    | error e =>
      rw [assemble_of_decodeAll_eq_error hbooks] at h
      cases h
    | ok books =>
      rw [assembleEach_of_decodeAll hbooks]
      exact h

/-! ## Faults -/

end Topology

theorem BoundBook.addresses_eq_error {b : BoundBook} {wanted : Nat} {id : BuildId}
    {fault : AssemblyFault} (h : b.addresses wanted id = .error fault) (output : String) :
    fault ≠ .missingOutput output := by
  obtain ⟨-, rfl⟩ | ⟨as, -, -, rfl⟩ := addresses_eq_error_iff.1 h
  · nofun
  · nofun

theorem Binding.decode_eq_assembly {b : Binding} {outputs : Outputs} {fault : AssemblyFault}
    (h : b.decode outputs = .error (.assembly fault)) : fault = .missingOutput b.output := by
  obtain ⟨-, hfault⟩ | ⟨_, _, -, -, hfault⟩ := decode_eq_error_iff.1 h
  · cases hfault
    rfl
  · cases hfault

namespace Topology

variable {t : Topology} {outputs : Outputs}

/-- A fault found while an instance is filled is not one of looking an output up. -/
theorem ne_missingOutput_of_assembleInstance {books : List BoundBook} (hbooks : t.Binds books)
    {id : BuildId} {fault : AssemblyFault} (h : t.assembleInstance books id = .error fault)
    (output : String) : fault ≠ .missingOutput output := by
  obtain ⟨bound, -, haddresses⟩ := (assembleInstance_eq_error hbooks).1 h
  exact BoundBook.addresses_eq_error haddresses output

/-- The procedures agree unless an output is no book and the books ahead of it do not fill the
    first build. -/
theorem assembleEach_eq_iff {first : BuildId} {rest : List BuildId} :
    t.assembleEach (first :: rest) outputs = t.assemble (first :: rest) outputs ↔
      (∃ books, t.bindings.mapM (·.decode outputs) = .ok books) ∨
        ∃ i, t.assembleInstance (outputs.booksAhead t.bindings) first = .ok i := by
  constructor
  · intro h
    rw [assembleEach_cons] at h
    cases hbooks : t.bindings.mapM (·.decode outputs) with
    | ok books => exact .inl ⟨books, rfl⟩
    | error e =>
      rw [assemble_of_decodeAll_eq_error hbooks] at h
      cases hfirst : t.assembleInstance (outputs.booksAhead t.bindings) first with
      | ok i => exact .inr ⟨i, rfl⟩
      | error fault =>
        rw [hfirst] at h
        have he : Error.assembly fault = e := Except.error.inj h
        subst he
        obtain ⟨b, -, hb⟩ := decodeAll_eq_error.1 hbooks
        exact absurd (Binding.decode_eq_assembly hb)
          (ne_missingOutput_of_assembleInstance (t.binds_booksAhead outputs) hfirst _)
  · rintro (⟨books, hbooks⟩ | ⟨i, hi⟩)
    · exact assembleEach_of_decodeAll hbooks _
    · rw [assembleEach_cons, hi]
      rfl

end Topology

/-! ## Requests -/

namespace Request

variable {r : Request} {first : BuildId} {rest : List BuildId}

/-- How the stepwise procedure compares with assembly on a request that starts with a build. -/
structure AgreesStepwise (r : Request) (first : BuildId) (outputs : Outputs) : Prop where
  /-- They yield the same instances. -/
  value : ∀ is, r.assembleEach outputs = .ok is ↔ r.assemble outputs = .ok is
  /-- They fail alike exactly if all outputs are books, or if all books ahead of the first that is
      none list one address for the first build. -/
  result : r.assembleEach outputs = r.assemble outputs ↔
    (∀ b ∈ Topology.bindings .defaultX64, ∃ book, outputs.Reports b.output book) ∨
      ∀ bound ∈ outputs.booksAhead (Topology.bindings .defaultX64),
        ∃ address, bound.book.get? first = some [address]
  /-- Assembly fails with the first output that is missing or no book. -/
  undecodable : ∀ e, (Topology.bindings .defaultX64).mapM (·.decode outputs) = .error e →
    r.assemble outputs = .error e
  /-- The stepwise procedure fails ahead of that output if the first build cannot be filled. -/
  stepwise : r.assembleEach outputs = (do
    let _ ← (Topology.assembleInstance .defaultX64
      (outputs.booksAhead (Topology.bindings .defaultX64)) first).mapError .assembly
    r.assemble outputs)

/-- For every request for at least one build, the stepwise procedure yields what assembly yields.
    It reports another fault only for a build that an output ahead of the first missing or
    undecodable one does not list with one address. -/
theorem agreesStepwise
    (h : r.lists.get? .defaultX64 = some ((first :: rest).map (·.value))) (outputs : Outputs) :
    r.AgreesStepwise first outputs := by
  have hne : first :: rest ≠ [] := List.cons_ne_nil first rest
  have hall : r.assemble outputs = Topology.assemble .defaultX64 (first :: rest) outputs :=
    assembleBy_of_builds hne h fun t ids => t.assemble ids outputs
  have heach : r.assembleEach outputs = Topology.assembleEach .defaultX64 (first :: rest) outputs :=
    assembleBy_of_builds hne h fun t ids => t.assembleEach ids outputs
  constructor
  case value =>
    intro is
    rw [hall, heach]
    exact Topology.assembleEach_eq_ok_iff
  case result =>
    rw [hall, heach, Topology.assembleEach_eq_iff, Topology.decodeAll_iff,
      Topology.exists_assembleInstance_iff (Topology.binds_booksAhead _ outputs)]
  case undecodable =>
    intro e he
    rw [hall]
    exact Topology.assemble_of_decodeAll_eq_error he _
  case stepwise =>
    rw [hall, heach]
    exact Topology.assembleEach_cons .defaultX64 first rest outputs

def oneBuild : Request := empty.insert .defaultX64 [1]

/-- The first output is an empty book, and no other output is present. -/
def emptyListing : Outputs :=
  Dict.empty.insert "default_sandbox_x64_build_ids_to_load_generator_0_control_vm_subnet_ip_list"
    ⟨false, .null, "{}"⟩

theorem oneBuild_agreesStepwise :
    oneBuild.lists.get? .defaultX64 = some [1] ∧
      oneBuild.AgreesStepwise ⟨1, by decide⟩ emptyListing :=
  ⟨rfl, @agreesStepwise oneBuild ⟨1, by decide⟩ [] rfl emptyListing⟩

/-- The stepwise procedure and assembly can report different faults. -/
theorem assembleEach_ne_assemble :
    oneBuild.assembleEach emptyListing =
        .error (.assembly (.missingInstance ⟨1, by decide⟩
          "default_sandbox_x64_build_ids_to_load_generator_0_control_vm_subnet_ip_list"
          Dict.empty)) ∧
      oneBuild.assemble emptyListing =
        .error (.assembly (.missingOutput
          "default_sandbox_x64_build_ids_to_sut_0_control_vm_subnet_ip_list")) ∧
      oneBuild.assembleEach emptyListing ≠ oneBuild.assemble emptyListing := by
  have heach : oneBuild.assembleEach emptyListing = .error (.assembly (.missingInstance _ _ _)) :=
    rfl
  have hall : oneBuild.assemble emptyListing = .error (.assembly (.missingOutput _)) := rfl
  refine ⟨heach, hall, ?_⟩
  rw [heach, hall]
  nofun

end Request

end Sandbox
