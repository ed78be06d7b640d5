-- SUMMARY: Which requests meet the rules, and which builds they ask for.
import Mathlib.Data.List.Nodup
import Sandbox.Assignment
import Sandbox.Proofs.Checks
import Sandbox.Proofs.Dict

/-!
# Valid requests

A request is valid if it lists builds, all of them positive and all different.
The check of the builds and the assignments of a request succeed on valid
requests only, and yield the builds in the order requested.
-/

namespace Sandbox

open Checks

-- ---------------------------------------------------------------------------
-- Builds
-- ---------------------------------------------------------------------------

namespace BuildId

theorem value_injective : Function.Injective value := by
  intro a b h
  cases a; cases b; cases h; rfl

theorem ofInt64?_eq_some_iff {id : Int64} {build : BuildId} :
    ofInt64? id = some build ↔ build.value = id := by
  unfold ofInt64?
  split
  · rw [Option.some.injEq]
    exact ⟨fun h => h ▸ rfl, fun h => value_injective h.symm⟩
  · next hid =>
    simp only [reduceCtorEq, false_iff]
    exact fun h => hid (h ▸ build.positive)

@[simp] theorem ofInt64?_value (build : BuildId) : ofInt64? build.value = some build :=
  ofInt64?_eq_some_iff.2 rfl

theorem ofInt64?_eq_none_iff {id : Int64} : ofInt64? id = none ↔ id < 1 := by
  rw [← Int64.not_le, ofInt64?]
  split
  · next hid => exact iff_of_false nofun (not_not_intro hid)
  · next hid => exact iff_of_true rfl hid

/-- Positive integers are the values of builds. -/
theorem exists_map_value_iff {ids : List Int64} :
    (∃ builds : List BuildId, builds.map (·.value) = ids) ↔ ∀ id ∈ ids, 1 ≤ id := by
  constructor
  · rintro ⟨builds, rfl⟩ id hid
    obtain ⟨build, -, rfl⟩ := List.mem_map.1 hid
    exact build.positive
  · intro h
    induction ids with
    | nil => exact ⟨[], rfl⟩
    | cons id ids ih =>
      obtain ⟨builds, hbuilds⟩ := ih fun id hid => h id (List.mem_cons_of_mem _ hid)
      exact ⟨⟨id, h id List.mem_cons_self⟩ :: builds, by simp [hbuilds]⟩

theorem nodup_map_value {builds : List BuildId} :
    (builds.map (·.value)).Nodup ↔ builds.Nodup :=
  List.nodup_map_iff value_injective

theorem value_mem_map_value {builds : List BuildId} {build : BuildId} :
    build.value ∈ builds.map (·.value) ↔ build ∈ builds :=
  List.mem_map_of_injective value_injective

end BuildId

namespace Request

-- ---------------------------------------------------------------------------
-- The list of a topology
-- ---------------------------------------------------------------------------

/-- There is one topology, so a request has one list at most. -/
theorem entries_eq (r : Request) :
    r.entries = ((r.lists.get? .defaultX64).map fun ids => (Topology.defaultX64, ids)).toList := by
  obtain ⟨⟨entries, hasc⟩⟩ := r
  show entries = ((Dict.find .defaultX64 entries).map _).toList
  match entries, hasc with
  | [], _ => rfl
  | [(.defaultX64, ids)], _ => rfl
  | (.defaultX64, _) :: (.defaultX64, _) :: _, hasc =>
    exact absurd rfl (Dict.ne_of_mem_tail hasc List.mem_cons_self)

theorem entries_of_get? {r : Request} {ids : List Int64}
    (h : r.lists.get? .defaultX64 = some ids) : r.entries = [(.defaultX64, ids)] := by
  rw [entries_eq, h]
  rfl

theorem isEmpty_of_get? {r : Request} {ids : List Int64}
    (h : r.lists.get? .defaultX64 = some ids) : r.isEmpty = false := by
  show r.entries.isEmpty = false
  rw [entries_of_get? h]
  rfl

theorem isEmpty_iff {r : Request} : r.isEmpty ↔ r.lists.get? .defaultX64 = none := by
  show r.entries.isEmpty ↔ _
  rw [entries_eq]
  cases r.lists.get? .defaultX64 <;> simp

-- ---------------------------------------------------------------------------
-- The rules
-- ---------------------------------------------------------------------------

/-- The rules for requests: at least one build, all of them positive and all different. -/
def Valid (r : Request) : Prop :=
  ∃ ids, r.lists.get? .defaultX64 = some ids ∧ ids ≠ [] ∧ (∀ id ∈ ids, 1 ≤ id) ∧ ids.Nodup

/-- The builds of a valid request, in the order requested. -/
def Asks (r : Request) (builds : List BuildId) : Prop :=
  r.lists.get? .defaultX64 = some (builds.map (·.value)) ∧ builds ≠ [] ∧ builds.Nodup

theorem valid_iff_exists_asks {r : Request} : r.Valid ↔ ∃ builds, r.Asks builds := by
  constructor
  · rintro ⟨ids, hids, hne, hpos, hnodup⟩
    obtain ⟨builds, rfl⟩ := BuildId.exists_map_value_iff.2 hpos
    exact ⟨builds, hids, by simpa using hne, BuildId.nodup_map_value.1 hnodup⟩
  · rintro ⟨builds, hids, hne, hnodup⟩
    exact ⟨_, hids, by simpa using hne, BuildId.exists_map_value_iff.1 ⟨builds, rfl⟩,
      BuildId.nodup_map_value.2 hnodup⟩

/-- The scan keeps the builds already accepted and adds those requested, in order. -/
theorem checkFrom_eq_ok {topology : Topology} {accepted : List BuildId} {ids : List Int64}
    {out : List BuildId} (haccepted : accepted.Nodup) :
    checkFrom topology accepted ids = .ok out ↔
      ∃ builds, out = accepted ++ builds ∧ builds.map (·.value) = ids ∧ out.Nodup := by
  induction ids generalizing accepted with
  | nil =>
    simp only [checkFrom, Except.ok.injEq, List.map_eq_nil_iff]
    constructor
    · rintro rfl
      exact ⟨[], by simp, rfl, haccepted⟩
    · rintro ⟨builds, rfl, rfl, -⟩
      simp
  | cons id ids ih =>
    rw [checkFrom]
    cases hid : BuildId.ofInt64? id with
    | none =>
      simp only [reduceCtorEq, false_iff, List.map_eq_cons_iff]
      rintro ⟨_, -, ⟨build, -, rfl, hvalue, -⟩, -⟩
      rw [BuildId.ofInt64?_eq_some_iff.2 hvalue] at hid
      cases hid
    | some build =>
      obtain rfl := BuildId.ofInt64?_eq_some_iff.1 hid
      dsimp only
      split
      · next hmem =>
        simp only [reduceCtorEq, false_iff, List.map_eq_cons_iff]
        rintro ⟨_, rfl, ⟨build', rest, rfl, hvalue, -⟩, hnodup⟩
        obtain rfl := BuildId.value_injective hvalue
        exact List.disjoint_of_nodup_append hnodup hmem List.mem_cons_self
      · next hmem =>
        have hnodup : (accepted ++ [build]).Nodup := by
          refine List.nodup_append.2 ⟨haccepted, List.nodup_singleton build, ?_⟩
          rintro a ha b hb rfl
          exact hmem (List.mem_singleton.1 hb ▸ ha)
        rw [ih hnodup]
        constructor
        · rintro ⟨builds, rfl, rfl, hout⟩
          exact ⟨build :: builds, by simp, rfl, hout⟩
        · rintro ⟨builds, rfl, hvalues, hout⟩
          obtain ⟨build', rest, rfl, hvalue, hrest⟩ := List.map_eq_cons_iff.1 hvalues
          obtain rfl := BuildId.value_injective hvalue
          exact ⟨rest, by simp, hrest, hout⟩

theorem checkIds_eq_ok {topology : Topology} {ids : List Int64} {builds : List BuildId} :
    checkIds topology ids = .ok builds ↔
      builds.map (·.value) = ids ∧ builds ≠ [] ∧ builds.Nodup := by
  rw [checkIds]
  split
  · next hempty =>
    obtain rfl := List.isEmpty_iff.1 hempty
    simp only [reduceCtorEq, false_iff]
    rintro ⟨hvalues, hne, -⟩
    exact hne (List.map_eq_nil_iff.1 hvalues)
  · next hne =>
    rw [checkFrom_eq_ok .nil]
    constructor
    · rintro ⟨builds, rfl, rfl, hnodup⟩
      exact ⟨rfl, by simpa using hne, hnodup⟩
    · rintro ⟨hvalues, -, hnodup⟩
      exact ⟨builds, rfl, hvalues, hnodup⟩

/-- The assignments of a request are one assignment of the builds it asks for. -/
theorem assignments_eq_ok {r : Request} {vs : List Assignment} :
    r.assignments = .ok vs ↔ ∃ builds, r.Asks builds ∧ vs = [⟨.defaultX64, builds⟩] := by
  rw [assignments]
  cases hids : r.lists.get? .defaultX64 with
  | none =>
    rw [if_pos (isEmpty_iff.2 hids)]
    simp [Asks, hids]
  | some ids =>
    rw [if_neg (by simp [isEmpty_of_get? hids]), entries_of_get? hids]
    simp only [mapM_eq_ok, List.forall₂_cons_left_iff, List.forall₂_nil_left_iff, bind_eq_ok,
      checkIds_eq_ok, pure, Except.pure, Except.ok.injEq, Asks, hids, Option.some.injEq]
    constructor
    · rintro ⟨_, _, ⟨builds, ⟨rfl, hne, hnodup⟩, rfl⟩, rfl, rfl⟩
      exact ⟨builds, ⟨rfl, hne, hnodup⟩, rfl⟩
    · rintro ⟨builds, ⟨rfl, hne, hnodup⟩, rfl⟩
      exact ⟨_, _, ⟨builds, ⟨rfl, hne, hnodup⟩, rfl⟩, rfl, rfl⟩

theorem exists_assignments_iff {r : Request} : (∃ vs, r.assignments = .ok vs) ↔ r.Valid := by
  rw [valid_iff_exists_asks]
  constructor
  · rintro ⟨vs, hvs⟩
    obtain ⟨builds, hasks, -⟩ := assignments_eq_ok.1 hvs
    exact ⟨builds, hasks⟩
  · rintro ⟨builds, hasks⟩
    exact ⟨_, assignments_eq_ok.2 ⟨builds, hasks, rfl⟩⟩

end Request
end Sandbox
