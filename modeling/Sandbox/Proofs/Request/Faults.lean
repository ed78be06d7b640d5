-- SUMMARY: Which fault of a request is reported, by its check and by its assignments alike.
import Sandbox.Proofs.Messages
import Sandbox.Proofs.Request

/-!
# Faults of requests

A list of builds is at fault where an ID is below the minimum or was listed
before. The check of a request and its assignments both report the first fault
of the list, and where there is none they take the builds as they are listed.
-/

namespace Sandbox.Request

open Checks

variable {t : Topology} {ids : List Int64} {i : Nat} {fault : RequestFault}

/-! ## Faults of a list -/

/-- What is wrong with the ID at a position of a list, given the IDs ahead of it. -/
inductive FaultAt (t : Topology) (ids : List Int64) (i : Nat) : RequestFault → Prop
  | belowMinimum {id : Int64} (hid : ids[i]? = some id) (hlow : id < 1) :
      FaultAt t ids i (.instanceBelowMinimum t id)
  | duplicate {id : Int64} {j : Nat} (hid : ids[i]? = some id) (hj : j < i)
      (hsame : ids[j]? = some id) : FaultAt t ids i (.duplicateInstance t id)

/-- Nothing is wrong ahead of a position. -/
def CleanUpTo (t : Topology) (ids : List Int64) (i : Nat) : Prop :=
  ∀ j < i, ∀ fault, ¬ FaultAt t ids j fault

/-- The fault at the smallest position where there is one. -/
def FirstFaultIn (t : Topology) (ids : List Int64) (fault : RequestFault) : Prop :=
  ∃ i, FaultAt t ids i fault ∧ CleanUpTo t ids i

theorem not_firstFaultIn_of_cleanUpTo (hclean : CleanUpTo t ids ids.length) :
    ¬ FirstFaultIn t ids fault := by
  rintro ⟨i, hi, -⟩
  have hlt : i < ids.length := by
    cases hi with
    | belowMinimum hid => exact (List.getElem?_eq_some_iff.1 hid).1
    | duplicate hid => exact (List.getElem?_eq_some_iff.1 hid).1
  exact hclean i hlt fault hi

section Position

variable {before after : List Int64} {id : Int64}

theorem faultAt_append_cons :
    FaultAt t (before ++ id :: after) before.length fault ↔
      (id < 1 ∧ fault = .instanceBelowMinimum t id) ∨
        (id ∈ before ∧ fault = .duplicateInstance t id) := by
  have hget : (before ++ id :: after)[before.length]? = some id := by simp
  constructor
  · intro h
    cases h with
    | belowMinimum hid hlow =>
      cases hget.symm.trans hid
      exact .inl ⟨hlow, rfl⟩
    | duplicate hid hj hsame =>
      cases hget.symm.trans hid
      rw [List.getElem?_append_left hj] at hsame
      exact .inr ⟨List.mem_of_getElem? hsame, rfl⟩
  · rintro (⟨hlow, rfl⟩ | ⟨hmem, rfl⟩)
    · exact .belowMinimum hget hlow
    · obtain ⟨j, hj, hsame⟩ := List.getElem_of_mem hmem
      refine .duplicate hget hj ?_
      rw [List.getElem?_append_left hj, List.getElem?_eq_getElem hj, hsame]

/-- Where an ID behind a clean part of a list is at fault, its fault is the first one. -/
theorem firstFaultIn_append_cons (hclean : CleanUpTo t (before ++ id :: after) before.length)
    (hfaulty : id < 1 ∨ id ∈ before) :
    FirstFaultIn t (before ++ id :: after) fault ↔
      (id < 1 ∧ fault = .instanceBelowMinimum t id) ∨
        (id ∈ before ∧ fault = .duplicateInstance t id) := by
  have hhere : FaultAt t (before ++ id :: after) before.length fault ↔ _ := faultAt_append_cons
  rw [← hhere]
  constructor
  · rintro ⟨i, hi, hclean'⟩
    obtain hlt | rfl | hgt := Nat.lt_trichotomy i before.length
    · exact absurd hi (hclean i hlt fault)
    · exact hi
    · cases hfaulty with
      | inl hlow => exact absurd (faultAt_append_cons.2 (.inl ⟨hlow, rfl⟩)) (hclean' _ hgt _)
      | inr hseen => exact absurd (faultAt_append_cons.2 (.inr ⟨hseen, rfl⟩)) (hclean' _ hgt _)
  · intro h
    exact ⟨before.length, h, hclean⟩

/-- Where it is not, the list is clean up to the next one. -/
theorem CleanUpTo.append_cons (hclean : CleanUpTo t (before ++ id :: after) before.length)
    (hpositive : 1 ≤ id) (hnew : id ∉ before) :
    CleanUpTo t (before ++ id :: after) (before.length + 1) := by
  intro j hj f hf
  obtain hlt | rfl := Nat.lt_succ_iff_lt_or_eq.1 hj
  · exact hclean j hlt f hf
  · obtain ⟨hlow, -⟩ | ⟨hseen, -⟩ := faultAt_append_cons.1 hf
    · exact Int64.not_le.2 hlow hpositive
    · exact hnew hseen

end Position

/-! ## The check of a list -/

/-- The scan stands behind builds with which nothing is wrong, and reports the first fault of the
    whole list. -/
theorem checkFrom_eq_error_iff {accepted : List BuildId} {rest : List Int64}
    (hclean : CleanUpTo t (accepted.map (·.value) ++ rest) (accepted.map (·.value)).length) :
    checkFrom t accepted rest = .error fault ↔
      FirstFaultIn t (accepted.map (·.value) ++ rest) fault := by
  induction rest generalizing accepted with
  | nil =>
    rw [List.append_nil] at hclean ⊢
    simp only [checkFrom, reduceCtorEq, false_iff]
    exact not_firstFaultIn_of_cleanUpTo hclean
  | cons id rest ih =>
    rw [checkFrom]
    cases hid : BuildId.ofInt64? id with
    | none =>
      have hlow := BuildId.ofInt64?_eq_none_iff.1 hid
      have hnew : id ∉ accepted.map (·.value) := by
        intro hmem
        obtain ⟨build, -, rfl⟩ := List.mem_map.1 hmem
        exact Int64.not_le.2 hlow build.positive
      rw [firstFaultIn_append_cons hclean (.inl hlow)]
      simp [hlow, hnew, eq_comm]
    | some build =>
      obtain rfl := BuildId.ofInt64?_eq_some_iff.1 hid
      dsimp only
      split
      · next hmem =>
        have hseen := BuildId.value_mem_map_value.2 hmem
        have hpositive : ¬ build.value < 1 := Int64.not_lt.2 build.positive
        rw [firstFaultIn_append_cons hclean (.inr hseen)]
        simp only [hpositive, hseen, false_and, true_and, false_or, Except.error.injEq]
        exact eq_comm
      · next hmem =>
        have hnew := BuildId.value_mem_map_value.not.2 hmem
        have hstep : (accepted ++ [build]).map (·.value) ++ rest =
            accepted.map (·.value) ++ build.value :: rest := by simp
        have hclean' : CleanUpTo t ((accepted ++ [build]).map (·.value) ++ rest)
            ((accepted ++ [build]).map (·.value)).length := by
          rw [hstep, List.map_append, List.length_append]
          exact hclean.append_cons build.positive hnew
        rw [ih hclean', hstep]

/-- A list is refused if it is empty, and for its first fault else. -/
theorem checkIds_eq_error_iff :
    checkIds t ids = .error fault ↔
      (ids = [] ∧ fault = .noInstances t) ∨ FirstFaultIn t ids fault := by
  have hstart : CleanUpTo t ids 0 := fun j hj => absurd hj (Nat.not_lt_zero j)
  rw [checkIds]
  split
  · next hempty =>
    obtain rfl := List.isEmpty_iff.1 hempty
    have hnone : ¬ FirstFaultIn t [] fault := not_firstFaultIn_of_cleanUpTo hstart
    simp [hnone, eq_comm]
  · next hne =>
    rw [or_iff_right fun h => hne (List.isEmpty_iff.2 h.1)]
    exact checkFrom_eq_error_iff hstart

/-! ## Faults of a request -/

/-- Why a request is refused. -/
inductive Refused (r : Request) : RequestFault → Prop
  | noTopology (hnone : r.lists.get? .defaultX64 = none) : Refused r .noTopology
  | noInstances (hempty : r.lists.get? .defaultX64 = some []) :
      Refused r (.noInstances .defaultX64)
  | listed {ids : List Int64} {fault : RequestFault} (hids : r.lists.get? .defaultX64 = some ids)
      (hfirst : FirstFaultIn .defaultX64 ids fault) : Refused r fault

theorem assignments_of_get? {r : Request} (h : r.lists.get? .defaultX64 = some ids) :
    r.assignments =
      (checkIds .defaultX64 ids).map fun builds => [(⟨.defaultX64, builds⟩ : Assignment)] := by
  rw [assignments, if_neg (by simp [isEmpty_of_get? h]), entries_of_get? h, List.mapM_cons,
    List.mapM_nil]
  dsimp only
  cases checkIds .defaultX64 ids <;> rfl

theorem assignments_eq_error_iff {r : Request} :
    r.assignments = .error fault ↔ r.Refused fault := by
  cases hids : r.lists.get? .defaultX64 with
  | none =>
    rw [assignments, if_pos (isEmpty_iff.2 hids), Except.error.injEq]
    constructor
    · rintro rfl
      exact .noTopology hids
    · intro h
      cases h with
      | noTopology => rfl
      | noInstances hempty => cases hids.symm.trans hempty
      | listed hids' => cases hids.symm.trans hids'
  | some ids =>
    rw [assignments_of_get? hids, map_eq_error, checkIds_eq_error_iff]
    constructor
    · rintro (⟨rfl, rfl⟩ | hfirst)
      · exact .noInstances hids
      · exact .listed hids hfirst
    · intro h
      cases h with
      | noTopology hnone => cases hids.symm.trans hnone
      | noInstances hempty => exact .inl ⟨Option.some.inj (hids.symm.trans hempty), rfl⟩
      | listed hids' hfirst =>
        cases hids.symm.trans hids'
        exact .inr hfirst

/-- The check of a request is that of its assignments. -/
theorem validate_eq (r : Request) : r.validate = r.assignments.map fun _ => () := by
  rw [validate, assignments]
  split
  · rfl
  · have hchecks : ∀ entry : Topology × List Int64,
        discard (checkIds entry.1 entry.2) =
          discard (do return (⟨entry.1, ← checkIds entry.1 entry.2⟩ : Assignment)) := by
      intro entry
      cases checkIds entry.1 entry.2 <;> rfl
    simp only [hchecks]
    exact forM_discard _ _

/-- A request is checked as its assignments are made: both succeed, or both fail with the same
    fault. It is the first one of the list, and its message names the build. Where there is none,
    the builds are those listed, in their order. -/
theorem validate_agrees_with_assignments (r : Request) :
    r.validate = (r.assignments.map fun _ => ()) ∧
    (∀ fault, r.validate = .error fault ↔ r.Refused fault) ∧
    (∀ fault, r.Refused fault → ∀ subject ∈ fault.subjects, Text.Within subject fault.message) ∧
    ∀ vs, r.assignments = .ok vs → ∃ builds : List BuildId,
      r.lists.get? .defaultX64 = some (builds.map (·.value)) ∧ vs = [⟨.defaultX64, builds⟩] := by
  refine ⟨validate_eq r, fun fault => ?_, fun fault _ subject h => fault.within_message h, ?_⟩
  · rw [validate_eq, map_eq_error, assignments_eq_error_iff]
  · intro vs hvs
    obtain ⟨builds, ⟨hids, -, -⟩, hvs⟩ := assignments_eq_ok.1 hvs
    exact ⟨builds, hids, hvs⟩

example : (empty.insert .defaultX64 [3, 7, 3, 0]).validate =
    .error (.duplicateInstance .defaultX64 3) := rfl

end Sandbox.Request
