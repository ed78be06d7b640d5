-- SUMMARY: Dictionaries kept in ascending key order: insertion, look-up, and extensionality.

/-!
# Dictionaries

A dictionary is a list of entries whose keys ascend strictly, so that equal
contents mean equal dictionaries (`Dict.ext_get?`). Building one from a list of
pairs keeps the last value of every key (`Dict.ofList`).
-/

namespace Sandbox

/-- A finite map whose entries are kept in strictly ascending key order. -/
structure Dict (κ ν : Type) [Ord κ] where
  entries : List (κ × ν)
  ascending : entries.Pairwise (fun a b => compare a.1 b.1 = .lt)

namespace Dict

variable {κ ν : Type} [Ord κ]

theorem ext_entries {d e : Dict κ ν} (h : d.entries = e.entries) : d = e := by
  cases d; cases e; cases h; rfl

instance [DecidableEq κ] [DecidableEq ν] : DecidableEq (Dict κ ν) := fun d e =>
  if h : d.entries = e.entries then .isTrue (ext_entries h)
  else .isFalse (fun hde => h (hde ▸ rfl))

def empty : Dict κ ν := ⟨[], .nil⟩

instance : EmptyCollection (Dict κ ν) := ⟨empty⟩

def isEmpty (d : Dict κ ν) : Bool := d.entries.isEmpty

def size (d : Dict κ ν) : Nat := d.entries.length

def keys (d : Dict κ ν) : List κ := d.entries.map (·.1)

-- ---------------------------------------------------------------------------
-- Look-up
-- ---------------------------------------------------------------------------

/-- The value of the first entry whose key compares equal to `k`. -/
def find (k : κ) : List (κ × ν) → Option ν
  | [] => none
  | (k', v) :: rest => if compare k k' = .eq then some v else find k rest

def get? (d : Dict κ ν) (k : κ) : Option ν := find k d.entries

theorem find_eq_none_of_lt {k : κ} {entries : List (κ × ν)}
    (h : ∀ e ∈ entries, compare k e.1 = .lt) : find k entries = none := by
  induction entries with
  | nil => rfl
  | cons head rest ih =>
    have hhead := h head List.mem_cons_self
    simp only [find, hhead]
    exact ih (fun e he => h e (List.mem_cons_of_mem _ he))

@[simp] theorem get?_empty (k : κ) : (empty : Dict κ ν).get? k = none := rfl

-- ---------------------------------------------------------------------------
-- Insertion
-- ---------------------------------------------------------------------------

/-- Puts `k` at its place among ascending entries, replacing an entry of the same key. -/
def place (k : κ) (v : ν) : List (κ × ν) → List (κ × ν)
  | [] => [(k, v)]
  | (k', v') :: rest =>
    match compare k k' with
    | .lt => (k, v) :: (k', v') :: rest
    | .eq => (k, v) :: rest
    | .gt => (k', v') :: place k v rest

theorem mem_place {k : κ} {v : ν} {entries : List (κ × ν)} {e : κ × ν}
    (h : e ∈ place k v entries) : e = (k, v) ∨ e ∈ entries := by
  induction entries with
  | nil => simpa [place] using h
  | cons head rest ih =>
    obtain ⟨k', v'⟩ := head
    simp only [place] at h
    split at h
    · simpa using h
    · cases List.mem_cons.1 h with
      | inl h => exact .inl h
      | inr h => exact .inr (List.mem_cons_of_mem _ h)
    · cases List.mem_cons.1 h with
      | inl h => exact .inr (h ▸ List.mem_cons_self)
      | inr h => exact (ih h).imp_right (List.mem_cons_of_mem _)

variable [Std.TransOrd κ] [Std.LawfulEqOrd κ]

theorem ascending_place (k : κ) (v : ν) {entries : List (κ × ν)}
    (h : entries.Pairwise (fun a b => compare a.1 b.1 = .lt)) :
    (place k v entries).Pairwise (fun a b => compare a.1 b.1 = .lt) := by
  induction entries with
  | nil => simp [place]
  | cons head rest ih =>
    obtain ⟨k', v'⟩ := head
    have hrest := List.pairwise_cons.1 h
    simp only [place]
    split
    · next hlt =>
      refine List.pairwise_cons.2 ⟨fun e he => ?_, h⟩
      cases List.mem_cons.1 he with
      | inl he => exact he ▸ hlt
      | inr he => exact Std.TransCmp.lt_trans hlt (hrest.1 e he)
    · next heq =>
      have hk : k = k' := Std.LawfulEqCmp.eq_of_compare heq
      exact List.pairwise_cons.2 ⟨fun e he => hk ▸ hrest.1 e he, hrest.2⟩
    · next hgt =>
      refine List.pairwise_cons.2 ⟨fun e he => ?_, ih hrest.2⟩
      cases mem_place he with
      | inl he => exact he ▸ Std.OrientedCmp.gt_iff_lt.1 hgt
      | inr he => exact hrest.1 e he

def insert (d : Dict κ ν) (k : κ) (v : ν) : Dict κ ν :=
  ⟨place k v d.entries, ascending_place k v d.ascending⟩

theorem find_place (k k' : κ) (v : ν) (entries : List (κ × ν)) :
    find k' (place k v entries) = if compare k' k = .eq then some v else find k' entries := by
  induction entries with
  | nil => simp [place, find]
  | cons head rest ih =>
    obtain ⟨k'', v''⟩ := head
    simp only [place]
    split
    · simp [find]
    · next heq =>
      have hk : k = k'' := Std.LawfulEqCmp.eq_of_compare heq
      subst hk
      simp only [find]
      split <;> rfl
    · next hgt =>
      simp only [find, ih]
      by_cases h : compare k' k'' = .eq
      · have hk : k' = k'' := Std.LawfulEqCmp.eq_of_compare h
        subst hk
        have hne : compare k' k ≠ .eq := by
          rw [Std.OrientedCmp.gt_iff_lt.1 hgt]; exact nofun
        simp [hne]
      · simp [h]

/-- After an insertion the key has the new value and every other key its old one. -/
theorem get?_insert [DecidableEq κ] (d : Dict κ ν) (k k' : κ) (v : ν) :
    (d.insert k v).get? k' = if k' = k then some v else d.get? k' := by
  show find k' (place k v d.entries) = _
  rw [find_place]
  by_cases h : k' = k
  · subst h; simp
  · have hne : compare k' k ≠ .eq := fun he => h (Std.LawfulEqCmp.eq_of_compare he)
    simp [h, hne, get?]

/-- The dictionary of a list of pairs; of several pairs with one key the last counts. -/
def ofList (pairs : List (κ × ν)) : Dict κ ν :=
  pairs.foldl (fun d pair => d.insert pair.1 pair.2) empty

/-- All entries of `d` and `e`; where both have a key, the value of `e`. -/
def union (d e : Dict κ ν) : Dict κ ν :=
  e.entries.foldl (fun d pair => d.insert pair.1 pair.2) d

-- ---------------------------------------------------------------------------
-- Extensionality
-- ---------------------------------------------------------------------------

omit [Std.TransOrd κ] in
private theorem find_tail {k k' : κ} {v : ν} {rest : List (κ × ν)}
    (hasc : ((k', v) :: rest).Pairwise (fun a b => compare a.1 b.1 = .lt)) :
    find k rest = if compare k k' = .eq then none else find k ((k', v) :: rest) := by
  by_cases h : compare k k' = .eq
  · have hk : k = k' := Std.LawfulEqCmp.eq_of_compare h
    subst hk
    rw [if_pos h]
    exact find_eq_none_of_lt (List.pairwise_cons.1 hasc).1
  · simp [find, h]

private theorem eq_of_find_eq {xs ys : List (κ × ν)}
    (hx : xs.Pairwise (fun a b => compare a.1 b.1 = .lt))
    (hy : ys.Pairwise (fun a b => compare a.1 b.1 = .lt))
    (h : ∀ k, find k xs = find k ys) : xs = ys := by
  induction xs generalizing ys with
  | nil =>
    cases ys with
    | nil => rfl
    | cons head rest =>
      have := h head.1
      simp [find] at this
  | cons head rest ih =>
    obtain ⟨k, v⟩ := head
    cases ys with
    | nil =>
      have := h k
      simp [find] at this
    | cons head' rest' =>
      obtain ⟨k', v'⟩ := head'
      have hk : compare k k' = .eq := by
        cases hc : compare k k' with
        | eq => rfl
        | lt =>
          have hnone : find k ((k', v') :: rest') = none :=
            find_eq_none_of_lt fun e he => by
              cases List.mem_cons.1 he with
              | inl he => exact he ▸ hc
              | inr he => exact Std.TransCmp.lt_trans hc ((List.pairwise_cons.1 hy).1 e he)
          have := h k
          rw [hnone] at this
          simp [find] at this
        | gt =>
          have hc' := Std.OrientedCmp.gt_iff_lt.1 hc
          have hnone : find k' ((k, v) :: rest) = none :=
            find_eq_none_of_lt fun e he => by
              cases List.mem_cons.1 he with
              | inl he => exact he ▸ hc'
              | inr he => exact Std.TransCmp.lt_trans hc' ((List.pairwise_cons.1 hx).1 e he)
          have := h k'
          rw [hnone] at this
          simp [find] at this
      have hkk : k = k' := Std.LawfulEqCmp.eq_of_compare hk
      subst hkk
      have hv : v = v' := by simpa [find] using h k
      subst hv
      rw [ih (List.pairwise_cons.1 hx).2 (List.pairwise_cons.1 hy).2
        (fun k'' => by rw [find_tail hx, find_tail hy, h k''])]

/-- Two dictionaries with the same value at every key are equal. -/
theorem ext_get? {d e : Dict κ ν} (h : ∀ k, d.get? k = e.get? k) : d = e :=
  ext_entries (eq_of_find_eq d.ascending e.ascending h)

end Dict
end Sandbox
