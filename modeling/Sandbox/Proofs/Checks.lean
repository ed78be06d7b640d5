-- SUMMARY: Chains of checks: a chain succeeds exactly when each of its links does.
import Mathlib.Data.List.Forall2
import Mathlib.Data.List.ProdSigma

/-!
# Chains of checks

Checks in `Except` stop at the first failure. What succeeds is described here by
the values that the links yield, and folds that check one item per step are
reduced to checking all items first.
-/

namespace Sandbox.Checks

variable {α β γ ε ε' σ : Type}

-- ---------------------------------------------------------------------------
-- Two checks in a row
-- ---------------------------------------------------------------------------

theorem bind_eq_ok {x : Except ε α} {f : α → Except ε β} {b : β} :
    x >>= f = .ok b ↔ ∃ a, x = .ok a ∧ f a = .ok b := by
  cases x <;> simp [bind, Except.bind]

theorem bind_eq_error {x : Except ε α} {f : α → Except ε β} {e : ε} :
    x >>= f = .error e ↔ x = .error e ∨ ∃ a, x = .ok a ∧ f a = .error e := by
  cases x <;> simp [bind, Except.bind]

theorem map_eq_ok {x : Except ε α} {f : α → β} {b : β} :
    x.map f = .ok b ↔ ∃ a, x = .ok a ∧ f a = b := by
  cases x <;> simp [Except.map]

theorem map_eq_error {x : Except ε α} {f : α → β} {e : ε} :
    x.map f = .error e ↔ x = .error e := by
  cases x <;> simp [Except.map]

theorem exists_error_iff {x : Except ε α} : (∃ e, x = .error e) ↔ ¬ ∃ a, x = .ok a := by
  cases x <;> simp

theorem mapError_eq_ok {x : Except ε α} {f : ε → ε'} {a : α} :
    x.mapError f = .ok a ↔ x = .ok a := by
  cases x <;> simp [Except.mapError]

theorem mapError_eq_error {x : Except ε α} {f : ε → ε'} {e : ε'} :
    x.mapError f = .error e ↔ ∃ e', x = .error e' ∧ f e' = e := by
  cases x <;> simp [Except.mapError]

-- ---------------------------------------------------------------------------
-- A check of every item
-- ---------------------------------------------------------------------------

theorem mapM_eq_ok {f : α → Except ε β} {xs : List α} {ys : List β} :
    xs.mapM f = .ok ys ↔ List.Forall₂ (fun x y => f x = .ok y) xs ys := by
  induction xs generalizing ys with
  | nil => cases ys <;> simp [pure, Except.pure]
  | cons x xs ih =>
    simp only [List.mapM_cons, bind_eq_ok, ih, List.forall₂_cons_left_iff, pure, Except.pure,
      Except.ok.injEq]
    constructor
    · rintro ⟨y, hy, ys', hys', rfl⟩
      exact ⟨y, ys', hy, hys', rfl⟩
    · rintro ⟨y, ys', hy, hys', rfl⟩
      exact ⟨y, hy, ys', hys', rfl⟩

theorem mapM_congr {f g : α → Except ε β} {xs : List α} (h : ∀ x ∈ xs, f x = g x) :
    xs.mapM f = xs.mapM g := by
  induction xs with
  | nil => rfl
  | cons x xs ih =>
    obtain ⟨hfirst, hrest⟩ := List.forall_mem_cons.1 h
    rw [List.mapM_cons, List.mapM_cons, hfirst, ih hrest]

theorem forM_discard (f : α → Except ε β) (xs : List α) :
    (xs.forM fun x => discard (f x)) = (xs.mapM f).map fun _ => () := by
  induction xs with
  | nil => rfl
  | cons x xs ih =>
    rw [List.forM, List.mapM_cons, ih]
    cases f x with
    | error e => rfl
    | ok y => cases xs.mapM f <;> rfl

/-- What the checks yield, seen through a function that each check settles. -/
theorem map_eq_map_of_mapM_eq_ok {γ : Type} {f : α → Except ε β} {g : β → γ} {k : α → γ}
    {xs : List α} {ys : List β} (hf : ∀ x ∈ xs, ∀ y, f x = .ok y → g y = k x)
    (h : xs.mapM f = .ok ys) : ys.map g = xs.map k := by
  have hall := mapM_eq_ok.1 h
  clear h
  induction hall with
  | nil => rfl
  | cons hxy _ ih =>
    obtain ⟨hfirst, hrest⟩ := List.forall_mem_cons.1 hf
    rw [List.map_cons, List.map_cons, hfirst _ hxy, ih hrest]

theorem exists_of_mem_of_mapM_eq_ok {f : α → Except ε β} {xs : List α} {ys : List β}
    (h : xs.mapM f = .ok ys) {y : β} (hy : y ∈ ys) : ∃ x ∈ xs, f x = .ok y := by
  have hall := mapM_eq_ok.1 h
  clear h
  induction hall with
  | nil => cases hy
  | cons hxy _ ih =>
    cases List.mem_cons.1 hy with
    | inl heq => exact ⟨_, List.mem_cons_self, heq ▸ hxy⟩
    | inr hmem =>
      obtain ⟨x, hx, hfx⟩ := ih hmem
      exact ⟨x, List.mem_cons_of_mem _ hx, hfx⟩

theorem exists_mem_of_mapM_eq_ok {f : α → Except ε β} {xs : List α} {ys : List β}
    (h : xs.mapM f = .ok ys) {x : α} (hx : x ∈ xs) : ∃ y ∈ ys, f x = .ok y := by
  have hall := mapM_eq_ok.1 h
  clear h
  induction hall with
  | nil => cases hx
  | cons hxy _ ih =>
    cases List.mem_cons.1 hx with
    | inl heq => exact ⟨_, List.mem_cons_self, heq ▸ hxy⟩
    | inr hmem =>
      obtain ⟨y, hy, hfy⟩ := ih hmem
      exact ⟨y, List.mem_cons_of_mem _ hy, hfy⟩

theorem exists_forall₂_iff {r : α → β → Prop} {xs : List α} :
    (∃ ys, List.Forall₂ r xs ys) ↔ ∀ x ∈ xs, ∃ y, r x y := by
  induction xs with
  | nil => simp
  | cons x xs ih =>
    simp only [List.forall₂_cons_left_iff, List.forall_mem_cons, ← ih]
    constructor
    · rintro ⟨_, y, ys, hy, hys, -⟩
      exact ⟨⟨y, hy⟩, ys, hys⟩
    · rintro ⟨⟨y, hy⟩, ys, hys⟩
      exact ⟨_, y, ys, hy, hys, rfl⟩

/-- A check of every item succeeds if and only if the check of each item does. -/
theorem exists_mapM_eq_ok {f : α → Except ε β} {xs : List α} :
    (∃ ys, xs.mapM f = .ok ys) ↔ ∀ x ∈ xs, ∃ y, f x = .ok y := by
  simp only [mapM_eq_ok, exists_forall₂_iff]

/-- An item has a property, and no item ahead of it has. -/
def First (p : α → Prop) (xs : List α) (x : α) : Prop :=
  ∃ before after, xs = before ++ x :: after ∧ (∀ y ∈ before, ¬ p y) ∧ p x

section First

variable {p q : α → Prop} {x x' : α} {xs xs' : List α}

theorem First.mem (h : First p xs x) : x ∈ xs := by
  obtain ⟨before, after, rfl, -, -⟩ := h
  simp

theorem First.prop (h : First p xs x) : p x := by
  obtain ⟨-, -, -, -, hx⟩ := h
  exact hx

theorem not_first_nil : ¬ First p [] x := fun h => nomatch h.mem

theorem first_cons : First p (x :: xs) x' ↔ (x' = x ∧ p x) ∨ (¬ p x ∧ First p xs x') := by
  constructor
  · rintro ⟨before, after, hsplit, hbefore, hx'⟩
    cases before with
    | nil =>
      obtain ⟨rfl, -⟩ := List.cons.inj hsplit
      exact .inl ⟨rfl, hx'⟩
    | cons y before =>
      obtain ⟨rfl, rfl⟩ := List.cons.inj hsplit
      obtain ⟨hx, hbefore⟩ := List.forall_mem_cons.1 hbefore
      exact .inr ⟨hx, before, after, rfl, hbefore, hx'⟩
  · rintro (⟨rfl, hx⟩ | ⟨hx, before, after, rfl, hbefore, hx'⟩)
    · exact ⟨[], xs, rfl, List.forall_mem_nil _, hx⟩
    · exact ⟨x :: before, after, rfl, List.forall_mem_cons.2 ⟨hx, hbefore⟩, hx'⟩

theorem first_congr (h : ∀ x ∈ xs, (p x ↔ q x)) : First p xs x ↔ First q xs x := by
  induction xs with
  | nil => simp [not_first_nil]
  | cons y xs ih =>
    obtain ⟨hy, hxs⟩ := List.forall_mem_cons.1 h
    rw [first_cons, first_cons, hy, ih hxs]

theorem exists_first_iff : (∃ x, First p xs x) ↔ ∃ x ∈ xs, p x := by
  constructor
  · rintro ⟨x, hx⟩
    exact ⟨x, hx.mem, hx.prop⟩
  · induction xs with
    | nil => simp
    | cons y xs ih =>
      rintro ⟨x, hx, hpx⟩
      by_cases hy : p y
      · exact ⟨y, first_cons.2 (.inl ⟨rfl, hy⟩)⟩
      · have hne : x ≠ y := by
          rintro rfl
          exact hy hpx
        obtain ⟨x', hx'⟩ := ih ⟨x, List.mem_of_ne_of_mem hne hx, hpx⟩
        exact ⟨x', first_cons.2 (.inr ⟨hy, hx'⟩)⟩

theorem first_map {f : β → α} {ys : List β} :
    First p (ys.map f) x ↔ ∃ y, f y = x ∧ First (fun y => p (f y)) ys y := by
  induction ys with
  | nil => simp [not_first_nil]
  | cons y ys ih =>
    simp only [List.map_cons, first_cons, ih]
    constructor
    · rintro (⟨rfl, hy⟩ | ⟨hy, y', rfl, hy'⟩)
      · exact ⟨y, rfl, .inl ⟨rfl, hy⟩⟩
      · exact ⟨y', rfl, .inr ⟨hy, hy'⟩⟩
    · rintro ⟨y', rfl, ⟨rfl, hy⟩ | ⟨hy, hy'⟩⟩
      · exact .inl ⟨rfl, hy⟩
      · exact .inr ⟨hy, y', rfl, hy'⟩

theorem first_append :
    First p (xs ++ xs') x ↔ First p xs x ∨ (∀ y ∈ xs, ¬ p y) ∧ First p xs' x := by
  induction xs with
  | nil => simp [not_first_nil]
  | cons y xs ih =>
    rw [List.cons_append, first_cons, first_cons, ih, List.forall_mem_cons]
    tauto

/-- The first of all pairs starts with the first item that is in any of them. -/
theorem first_product {r : α × β → Prop} {ys : List β} {y : β} :
    First r (xs ×ˢ ys) (x, y) ↔
      First (fun x => ∃ y ∈ ys, r (x, y)) xs x ∧ First (fun y => r (x, y)) ys y := by
  induction xs with
  | nil => simp only [List.nil_product, not_first_nil, false_and]
  | cons x' xs ih =>
    have hpairs : First r (ys.map (Prod.mk x')) (x, y) ↔
        x = x' ∧ First (fun y => r (x', y)) ys y := by
      rw [first_map]
      simp [and_assoc, eq_comm (a := x)]
    have hnone : (∀ pair ∈ ys.map (Prod.mk x'), ¬ r pair) ↔ ¬ ∃ y ∈ ys, r (x', y) := by
      simp
    rw [List.product_cons, first_append, hpairs, hnone, ih, first_cons]
    constructor
    · rintro (⟨rfl, hy⟩ | ⟨hx', hx, hy⟩)
      · exact ⟨.inl ⟨rfl, y, hy.mem, hy.prop⟩, hy⟩
      · exact ⟨.inr ⟨hx', hx⟩, hy⟩
    · rintro ⟨⟨rfl, -⟩ | ⟨hx', hx⟩, hy⟩
      · exact .inl ⟨rfl, hy⟩
      · exact .inr ⟨hx', hx, hy⟩

/-- In an ordered list the first item is the least one. -/
theorem first_iff_of_pairwise {r : α → α → Prop} (hr : ∀ x y, r x y → ¬ r y x)
    (h : xs.Pairwise r) :
    First p xs x ↔ x ∈ xs ∧ p x ∧ ∀ y ∈ xs, r y x → ¬ p y := by
  constructor
  · rintro ⟨before, after, rfl, hbefore, hx⟩
    refine ⟨by simp, hx, fun y hy hyx => ?_⟩
    obtain ⟨-, hafter, -⟩ := List.pairwise_append.1 h
    rcases List.mem_append.1 hy with hy | hy
    · exact hbefore y hy
    · rcases List.mem_cons.1 hy with rfl | hy
      · exact absurd hyx (hr y y hyx)
      · exact absurd hyx (hr x y ((List.pairwise_cons.1 hafter).1 y hy))
  · rintro ⟨hmem, hx, hleast⟩
    obtain ⟨before, after, rfl⟩ := List.append_of_mem hmem
    obtain ⟨-, -, hacross⟩ := List.pairwise_append.1 h
    refine ⟨before, after, rfl, fun y hy => ?_, hx⟩
    exact hleast y (List.mem_append_left _ hy) (hacross y hy x List.mem_cons_self)

end First

/-- A check of every item fails with the failure of the first item that fails. -/
theorem mapM_eq_error {f : α → Except ε β} {xs : List α} {e : ε} :
    xs.mapM f = .error e ↔ ∃ x, First (fun x => ∃ e, f x = .error e) xs x ∧ f x = .error e := by
  induction xs with
  | nil => simp [not_first_nil, pure, Except.pure]
  | cons x xs ih =>
    have hpure : ∀ ys y, (pure (y :: ys) : Except ε (List β)) ≠ .error e := fun _ _ => nofun
    simp only [List.mapM_cons, bind_eq_error, ih, hpure, and_false, exists_false, or_false,
      first_cons]
    cases hx : f x with
    | error e' =>
      simp only [reduceCtorEq, false_and, exists_false, or_false, Except.error.injEq,
        exists_eq', not_true_eq_false, and_true, exists_eq_left, hx]
    | ok y =>
      simp

theorem mapM_option_eq_some {f : α → Option β} {xs : List α} {ys : List β} :
    xs.mapM f = some ys ↔ List.Forall₂ (fun x y => f x = some y) xs ys := by
  induction xs generalizing ys with
  | nil => cases ys <;> simp
  | cons x xs ih =>
    simp only [List.mapM_cons, Option.bind_eq_bind, Option.bind_eq_some_iff, ih,
      List.forall₂_cons_left_iff, Option.pure_def, Option.some.injEq]
    constructor
    · rintro ⟨y, hy, ys', hys', rfl⟩
      exact ⟨y, ys', hy, hys', rfl⟩
    · rintro ⟨y, ys', hy, hys', rfl⟩
      exact ⟨y, hy, ys', hys', rfl⟩

theorem mapM_option_map (f : α → Option β) (k : β → γ) (xs : List α) :
    (xs.mapM fun x => (f x).map k) = (xs.mapM f).map (List.map k) := by
  induction xs with
  | nil => rfl
  | cons x xs ih =>
    simp only [List.mapM_cons, ih]
    cases f x <;> cases xs.mapM f <;> rfl

-- ---------------------------------------------------------------------------
-- Folds with a check in every step
-- ---------------------------------------------------------------------------

/-- A fold whose steps check one item each checks all items first, failures included. -/
theorem foldlM_map_eq (f : α → Except ε β) (g : σ → β → σ) (init : σ) (xs : List α) :
    xs.foldlM (fun s x => (f x).map (g s)) init = (xs.mapM f).map (List.foldl g init) := by
  induction xs generalizing init with
  | nil => rfl
  | cons x xs ih =>
    rw [List.foldlM_cons, List.mapM_cons]
    cases f x with
    | error e => rfl
    | ok y =>
      show xs.foldlM _ (g init y) = _
      rw [ih]
      show _ = ((xs.mapM f).bind fun ys => .ok (y :: ys)).map _
      cases xs.mapM f <;> rfl

/-- A fold can rename its failures in every step or at the end. -/
theorem foldlM_mapError (f : σ → α → Except ε σ) (k : ε → ε') (init : σ) (xs : List α) :
    xs.foldlM (fun s x => (f s x).mapError k) init = (xs.foldlM f init).mapError k := by
  induction xs generalizing init with
  | nil => rfl
  | cons x xs ih =>
    rw [List.foldlM_cons, List.foldlM_cons]
    cases f init x with
    | error e => rfl
    | ok s => exact ih s

end Sandbox.Checks
