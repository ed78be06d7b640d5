-- SUMMARY: What a dictionary contains: entries, keys, and dictionaries made from lists of pairs.
import Mathlib.Data.List.Induction
import Mathlib.Data.List.Nodup
import Sandbox.Dict

/-!
# The contents of dictionaries

An entry is what a look-up finds, keys are never repeated, and a dictionary made
from a list of pairs finds the last pair of each key.
-/

namespace Sandbox.Dict

variable {κ ν : Type} [Ord κ] [Std.LawfulEqOrd κ]

-- ---------------------------------------------------------------------------
-- Entries and keys
-- ---------------------------------------------------------------------------

theorem ne_of_mem_tail {k : κ} {v : ν} {rest : List (κ × ν)} {e : κ × ν}
    (h : ((k, v) :: rest).Pairwise (fun a b => compare a.1 b.1 = .lt)) (he : e ∈ rest) :
    e.1 ≠ k := by
  intro heq
  have hlt := (List.pairwise_cons.1 h).1 e he
  simp [heq] at hlt

theorem find_eq_some_iff {k : κ} {v : ν} {entries : List (κ × ν)}
    (h : entries.Pairwise (fun a b => compare a.1 b.1 = .lt)) :
    find k entries = some v ↔ (k, v) ∈ entries := by
  induction entries with
  | nil => simp [find]
  | cons head rest ih =>
    obtain ⟨k', v'⟩ := head
    have ih := ih (List.pairwise_cons.1 h).2
    simp only [find]
    split
    · next heq =>
      obtain rfl : k = k' := Std.LawfulEqCmp.eq_of_compare heq
      simp only [Option.some.injEq, List.mem_cons, Prod.mk.injEq, true_and]
      exact ⟨fun hv => .inl hv.symm, fun hv => hv.elim Eq.symm
        fun hmem => absurd rfl (ne_of_mem_tail h hmem)⟩
    · next hne =>
      have hk : k ≠ k' := fun hk => hne (by simp [hk])
      simp [ih, hk]

/-- A look-up finds exactly the entries. -/
theorem get?_eq_some_iff {d : Dict κ ν} {k : κ} {v : ν} :
    d.get? k = some v ↔ (k, v) ∈ d.entries :=
  find_eq_some_iff d.ascending

theorem mem_keys_iff {d : Dict κ ν} {k : κ} : k ∈ d.keys ↔ ∃ v, d.get? k = some v := by
  simp [keys, get?_eq_some_iff]

theorem get?_eq_none_iff {d : Dict κ ν} {k : κ} : d.get? k = none ↔ k ∉ d.keys := by
  rw [mem_keys_iff, not_exists, Option.eq_none_iff_forall_ne_some]

theorem nodup_keys (d : Dict κ ν) : d.keys.Nodup := by
  refine List.pairwise_map.2 (d.ascending.imp fun {a b} hlt heq => ?_)
  simp [heq] at hlt

theorem length_flatMap_place [Std.TransOrd κ] {α : Type} (f : κ × ν → List α) (k : κ) (v : ν)
    {entries : List (κ × ν)} (h : entries.Pairwise (fun a b => compare a.1 b.1 = .lt)) :
    ((place k v entries).flatMap f).length +
        (((find k entries).map fun v => f (k, v)).getD []).length =
      (entries.flatMap f).length + (f (k, v)).length := by
  induction entries with
  | nil => simp [place, find]
  | cons head rest ih =>
    obtain ⟨k', v'⟩ := head
    have hrest := List.pairwise_cons.1 h
    have ih := ih hrest.2
    unfold place find
    cases hcmp : compare k k' with
    | lt =>
      have hnone : find k rest = none :=
        find_eq_none_of_lt fun e he => Std.TransCmp.lt_trans hcmp (hrest.1 e he)
      simp [hnone, Nat.add_comm]
    | eq =>
      obtain rfl : k = k' := Std.LawfulEqCmp.eq_of_compare hcmp
      simp only [if_true, List.flatMap_cons, List.length_append, Option.map_some, Option.getD_some]
      omega
    | gt =>
      simp only [reduceCtorEq, if_false, List.flatMap_cons, List.length_append]
      omega

/-- What the entries list gains what the new entry lists, and loses what the entry of the same
    key listed before. -/
theorem length_flatMap_insert [Std.TransOrd κ] {α : Type} (f : κ × ν → List α) (d : Dict κ ν)
    (k : κ) (v : ν) :
    ((d.insert k v).entries.flatMap f).length +
        (((d.get? k).map fun v => f (k, v)).getD []).length =
      (d.entries.flatMap f).length + (f (k, v)).length :=
  length_flatMap_place f k v d.ascending

/-- What only the entry of one key yields is yielded once. -/
theorem flatMap_entries_of_get? [DecidableEq κ] {α : Type} {d : Dict κ ν} {k : κ} {v : ν}
    (h : d.get? k = some v) (xs : List α) :
    (d.entries.flatMap fun entry => if entry.1 = k then xs else []) = xs := by
  obtain ⟨before, after, hsplit⟩ := List.append_of_mem (get?_eq_some_iff.1 h)
  have hnodup := d.nodup_keys
  rw [keys, hsplit, List.map_append, List.map_cons, List.nodup_middle, List.nodup_cons,
    ← List.map_append] at hnodup
  have hothers : ∀ entry ∈ before ++ after, entry.1 ≠ k := by
    rintro entry hentry rfl
    exact hnodup.1 (List.mem_map.2 ⟨entry, hentry, rfl⟩)
  have hnone : ((before ++ after).flatMap fun entry => if entry.1 = k then xs else []) = [] :=
    List.flatMap_eq_nil_iff.2 fun entry hentry => if_neg (hothers entry hentry)
  rw [List.flatMap_append, List.append_eq_nil_iff] at hnone
  rw [hsplit, List.flatMap_append, List.flatMap_cons, hnone.1, hnone.2, if_pos rfl,
    List.nil_append, List.append_nil]

-- ---------------------------------------------------------------------------
-- Dictionaries made from pairs
-- ---------------------------------------------------------------------------

variable [Std.TransOrd κ] [DecidableEq κ]

theorem get?_foldl_insert (pairs : List (κ × ν)) (d : Dict κ ν) (k : κ) :
    (pairs.foldl (fun d pair => d.insert pair.1 pair.2) d).get? k
      = (pairs.reverse.lookup k).or (d.get? k) := by
  induction pairs generalizing d with
  | nil => rfl
  | cons pair pairs ih =>
    obtain ⟨k', v⟩ := pair
    rw [List.foldl_cons, ih, get?_insert, List.reverse_cons, List.lookup_append, Option.or_assoc]
    by_cases h : k = k'
    · simp [h]
    · have hne : (k == k') = false := by simpa using h
      simp [h, List.lookup_cons, hne]

/-- Of the pairs with one key, the last counts. -/
theorem get?_ofList (pairs : List (κ × ν)) (k : κ) :
    (ofList pairs).get? k = pairs.reverse.lookup k := by
  rw [ofList, get?_foldl_insert, get?_empty, Option.or_none]

theorem lookup_reverse (pairs : List (κ × ν)) (k : κ) :
    pairs.reverse.lookup k = (pairs.filter (·.1 = k)).getLast?.map (·.2) := by
  induction pairs using List.reverseRecOn with
  | nil => rfl
  | append_singleton pairs pair ih =>
    obtain ⟨k', v⟩ := pair
    rw [List.reverse_concat, List.lookup_cons, List.filter_append, ih]
    by_cases h : k = k'
    · simp [h]
    · have hne : (k == k') = false := by simpa using h
      simp [hne, Ne.symm h]

/-- What is found in a dictionary made from pairs is one of the pairs. -/
theorem mem_of_get?_ofList {pairs : List (κ × ν)} {k : κ} {v : ν}
    (h : (ofList pairs).get? k = some v) : (k, v) ∈ pairs := by
  rw [get?_ofList, List.lookup_eq_some_iff] at h
  obtain ⟨before, after, hsplit, -⟩ := h
  rw [← List.mem_reverse, hsplit]
  simp

theorem exists_get?_ofList_iff {pairs : List (κ × ν)} {k : κ} :
    (∃ v, (ofList pairs).get? k = some v) ↔ ∃ v, (k, v) ∈ pairs := by
  rw [← Option.isSome_iff_exists, get?_ofList, List.lookup_isSome_iff]
  simp

/-- A key whose pairs all have one value has that value. -/
theorem get?_ofList_of_mem {pairs : List (κ × ν)} {k : κ} {v : ν} (hmem : (k, v) ∈ pairs)
    (honly : ∀ v', (k, v') ∈ pairs → v' = v) : (ofList pairs).get? k = some v := by
  obtain ⟨v', hv'⟩ := exists_get?_ofList_iff.2 ⟨v, hmem⟩
  rw [hv', honly v' (mem_of_get?_ofList hv')]

/-- A dictionary is made of its entries, in whatever order they come. -/
theorem ofList_of_perm {pairs : List (κ × ν)} {d : Dict κ ν} (hperm : pairs.Perm d.entries) :
    ofList pairs = d := by
  refine ext_get? fun k => ?_
  cases h : d.get? k with
  | some v =>
    refine get?_ofList_of_mem (hperm.mem_iff.2 (get?_eq_some_iff.1 h)) fun v' hv' => ?_
    rw [hperm.mem_iff, ← get?_eq_some_iff, h] at hv'
    exact (Option.some.inj hv').symm
  | none =>
    cases hof : (ofList pairs).get? k with
    | none => rfl
    | some v =>
      rw [get?_eq_some_iff.2 (hperm.mem_iff.1 (mem_of_get?_ofList hof))] at h
      cases h

theorem ofList_entries (d : Dict κ ν) : ofList d.entries = d := ofList_of_perm (.refl _)

/-- The values of a dictionary can be replaced where there is something to replace them by. -/
theorem exists_get?_bind {μ : Type} (d : Dict κ ν) (f : ν → Option μ) :
    ∃ e : Dict κ μ, ∀ k, e.get? k = d.get? k >>= f := by
  let pairs := d.entries.filterMap fun entry => (f entry.2).map (entry.1, ·)
  have hpairs : ∀ k w, (k, w) ∈ pairs ↔ d.get? k >>= f = some w := by
    intro k w
    simp only [pairs, List.mem_filterMap, Option.map_eq_some_iff, Option.bind_eq_bind,
      Option.bind_eq_some_iff, get?_eq_some_iff]
    constructor
    · intro h
      obtain ⟨⟨_, v⟩, hv, _, hw, heq⟩ := h
      cases heq
      exact ⟨v, hv, hw⟩
    · intro h
      obtain ⟨v, hv, hw⟩ := h
      exact ⟨(k, v), hv, w, hw, rfl⟩
  refine ⟨ofList pairs, fun k => ?_⟩
  cases hk : d.get? k >>= f with
  | some w =>
    refine get?_ofList_of_mem ((hpairs k w).2 hk) fun w' hw' => ?_
    exact Option.some.inj (((hpairs k w').1 hw').symm.trans hk)
  | none =>
    cases hof : (ofList pairs).get? k with
    | none => rfl
    | some w => cases hk.symm.trans ((hpairs k w).1 (mem_of_get?_ofList hof))

theorem empty_union (d : Dict κ ν) : (empty : Dict κ ν).union d = d := ofList_entries d

-- ---------------------------------------------------------------------------
-- Repeated keys
-- ---------------------------------------------------------------------------

section Repeated

variable {κ ν : Type} [DecidableEq κ]

/-- The pairs whose key no later pair has, in their order. -/
def latest : List (κ × ν) → List (κ × ν)
  | [] => []
  | pair :: rest => if pair.1 ∈ rest.map (·.1) then latest rest else pair :: latest rest

/-- The pairs whose key some later pair has, in their order. -/
def overwritten : List (κ × ν) → List (κ × ν)
  | [] => []
  | pair :: rest => if pair.1 ∈ rest.map (·.1) then pair :: overwritten rest else overwritten rest

theorem latest_sublist (pairs : List (κ × ν)) : (latest pairs).Sublist pairs := by
  induction pairs with
  | nil => exact .slnil
  | cons pair rest ih =>
    unfold latest
    split
    · exact ih.cons pair
    · exact ih.cons_cons pair

theorem perm_latest_append_overwritten (pairs : List (κ × ν)) :
    pairs.Perm (latest pairs ++ overwritten pairs) := by
  induction pairs with
  | nil => exact .nil
  | cons pair rest ih =>
    unfold latest overwritten
    split
    · exact (ih.cons pair).trans List.perm_middle.symm
    · exact ih.cons pair

theorem nodup_latest (pairs : List (κ × ν)) : (latest pairs).Nodup := by
  induction pairs with
  | nil => exact .nil
  | cons pair rest ih =>
    unfold latest
    split
    · exact ih
    · next hnew =>
      refine List.nodup_cons.2 ⟨fun hmem => hnew ?_, ih⟩
      exact List.mem_map_of_mem ((latest_sublist rest).mem hmem)

theorem latest_eq_self {pairs : List (κ × ν)} (h : (pairs.map (·.1)).Nodup) :
    latest pairs = pairs := by
  induction pairs with
  | nil => rfl
  | cons pair rest ih =>
    obtain ⟨hnew, hrest⟩ := List.nodup_cons.1 h
    rw [latest, if_neg hnew, ih hrest]

theorem mem_latest_iff {pairs : List (κ × ν)} {k : κ} {v : ν} :
    (k, v) ∈ latest pairs ↔ pairs.reverse.lookup k = some v := by
  induction pairs with
  | nil => simp [latest]
  | cons pair rest ih =>
    obtain ⟨k', v'⟩ := pair
    have hrest : k' ∈ rest.map (·.1) ↔ (rest.reverse.lookup k').isSome := by
      simp [List.lookup_isSome_iff]
    rw [latest, List.reverse_cons, List.lookup_append]
    by_cases hk : k = k'
    · subst hk
      cases hlookup : rest.reverse.lookup k with
      | none =>
        rw [hlookup] at ih hrest
        rw [if_neg fun hmem => nomatch hrest.1 hmem]
        simp [ih, eq_comm]
      | some w =>
        rw [hlookup] at ih hrest
        rw [if_pos (hrest.2 rfl), ih]
        rfl
    · have hother : List.lookup k [(k', v')] = none := by simp [hk]
      rw [hother, Option.or_none, ← ih]
      split
      · rfl
      · simp [hk]

theorem latest_filter (p : κ → Bool) (pairs : List (κ × ν)) :
    latest (pairs.filter (p ·.1)) = (latest pairs).filter (p ·.1) := by
  induction pairs with
  | nil => rfl
  | cons pair rest ih =>
    cases hp : p pair.1 with
    | false =>
      rw [List.filter_cons_of_neg (by simp [hp]), ih, latest]
      split
      · rfl
      · rw [List.filter_cons_of_neg (by simp [hp])]
    | true =>
      have hmem : pair.1 ∈ (rest.filter (p ·.1)).map (·.1) ↔ pair.1 ∈ rest.map (·.1) := by
        simp [hp]
      rw [List.filter_cons_of_pos (by simp [hp]), latest, latest, ih]
      simp only [hmem]
      split
      · rfl
      · rw [List.filter_cons_of_pos (by simp [hp])]

end Repeated

/-- A dictionary made from pairs has the latest pair of each key. -/
theorem entries_ofList_perm (pairs : List (κ × ν)) :
    (ofList pairs).entries.Perm (latest pairs) := by
  have hnodup : (ofList pairs).entries.Nodup := (ofList pairs).nodup_keys.of_map
  refine (List.perm_ext_iff_of_nodup hnodup (nodup_latest pairs)).2 fun (k, v) => ?_
  rw [mem_latest_iff, ← get?_eq_some_iff, get?_ofList]

/-- The entries of some keys are made from the pairs with these keys. -/
theorem filter_entries_ofList (p : κ → Bool) (pairs : List (κ × ν)) :
    (ofList pairs).entries.filter (p ·.1) = (ofList (pairs.filter (p ·.1))).entries := by
  let kept : Dict κ ν := ⟨_, (ofList pairs).ascending.filter (p ·.1)⟩
  have hperm : kept.entries.Perm (ofList (pairs.filter (p ·.1))).entries := by
    refine ((entries_ofList_perm pairs).filter (p ·.1)).trans ?_
    rw [← latest_filter]
    exact (entries_ofList_perm _).symm
  have hkept : kept = ofList (pairs.filter (p ·.1)) :=
    (ofList_entries kept).symm.trans (ofList_of_perm hperm)
  exact congrArg entries hkept

/-- Where no key is repeated, the order of the pairs does not matter. -/
theorem ofList_eq_of_perm {pairs pairs' : List (κ × ν)} (hperm : pairs.Perm pairs')
    (hnodup : (pairs.map (·.1)).Nodup) : ofList pairs = ofList pairs' := by
  have hentries : (ofList pairs).entries.Perm pairs := by
    simpa only [latest_eq_self hnodup] using entries_ofList_perm pairs
  exact (ofList_of_perm (hperm.symm.trans hentries.symm)).symm

end Sandbox.Dict
