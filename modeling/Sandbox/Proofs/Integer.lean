-- SUMMARY: Integers as text: what digits read as, and reading back what is written.
import Mathlib.Data.List.Basic
import Sandbox.Text.Integer

/-!
# Reading integers back

Digits are read as the number they write, unless that exceeds the limit. Every
signed 64-bit integer is read back from its decimal text.
-/

namespace Sandbox.Text

-- ---------------------------------------------------------------------------
-- Digits
-- ---------------------------------------------------------------------------

theorem Digit.ofChar?_of_isDigit {c : Char} (h : c.isDigit) :
    ∃ d, Digit.ofChar? c = some d ∧ d.val = c.toNat - '0'.toNat := by
  have hc := Char.isDigit_iff_toNat.1 h
  have hrange : 48 ≤ c.toNat ∧ c.toNat < 58 := ⟨hc.1, Nat.lt_succ_of_le hc.2⟩
  exact ⟨⟨c.toNat - 48, by omega⟩, by simp [Digit.ofChar?, hrange], rfl⟩

theorem Digit.ofChar?_of_not_isDigit {c : Char} (h : ¬ c.isDigit) : Digit.ofChar? c = none := by
  rw [Char.isDigit_iff_toNat] at h
  have hrange : ¬ (48 ≤ c.toNat ∧ c.toNat < 58) := fun hc => h ⟨hc.1, Nat.le_of_lt_succ hc.2⟩
  simp [Digit.ofChar?, hrange]

/-- Only zero is written with a zero ahead. -/
theorem head?_toDigits_ne_zero {base n : Nat} (hone : 1 < base) (h : 0 < n) :
    (Nat.toDigits base n).head? ≠ some '0' := by
  induction n using Nat.strongRecOn with
  | _ n ih =>
    rw [Nat.toDigits_eq_if hone]
    split
    · simp only [List.head?_cons, ne_eq, Option.some.injEq, Nat.digitChar_eq_zero]
      omega
    · next hle =>
      rw [List.head?_append_of_ne_nil _ Nat.toDigits_ne_nil]
      exact ih (n / base) (Nat.div_lt_self h hone) (Nat.div_pos (Nat.not_lt.1 hle) (by omega))

theorem le_ofDigitChars (cs : List Char) (value : Nat) : value ≤ Nat.ofDigitChars 10 cs value := by
  induction cs generalizing value with
  | nil => simp
  | cons c cs ih =>
    rw [Nat.ofDigitChars_cons]
    exact Nat.le_trans (by omega) (ih _)

/-- Digits are read as the number they write, which must lie within the limit. -/
theorem readMagnitude_eq_ok {limit : Nat} {excess : IntegerFault} {cs : List Char} {value n : Nat}
    (hvalue : value ≤ limit) :
    readMagnitude limit excess cs value = .ok n ↔
      (∀ c ∈ cs, c.isDigit) ∧ n = Nat.ofDigitChars 10 cs value ∧ n ≤ limit := by
  induction cs generalizing value with
  | nil =>
    simp only [readMagnitude, Except.ok.injEq, List.not_mem_nil, false_implies, implies_true,
      Nat.ofDigitChars_nil, true_and]
    constructor
    · rintro rfl
      exact ⟨rfl, hvalue⟩
    · rintro ⟨rfl, -⟩
      rfl
  | cons c cs ih =>
    rw [readMagnitude, Nat.ofDigitChars_cons, List.forall_mem_cons]
    by_cases hc : c.isDigit
    · obtain ⟨d, hd, hval⟩ := Digit.ofChar?_of_isDigit hc
      simp only [hd, hc, true_and, ← hval, Nat.mul_comm 10 value]
      split
      · next hexcess =>
        simp only [reduceCtorEq, false_iff]
        rintro ⟨-, rfl, hle⟩
        exact absurd (Nat.le_trans (le_ofDigitChars cs _) hle) (Nat.not_le.2 hexcess)
      · next hle => exact ih (Nat.not_lt.1 hle)
    · simp [Digit.ofChar?_of_not_isDigit hc, hc]

-- ---------------------------------------------------------------------------
-- Signed integers
-- ---------------------------------------------------------------------------

theorem readInteger_of_isDigit {c : Char} {cs : List Char} (h : c.isDigit) :
    readInteger (c :: cs) = readPositive (c :: cs) := by
  unfold readInteger
  split <;> simp_all

theorem readInteger_minus {cs : List Char} (h : cs ≠ []) :
    readInteger ('-' :: cs) = readNegative cs := by
  cases cs with
  | nil => exact absurd rfl h
  | cons c cs => rfl

theorem readPositive_toDigits {n : Nat} (h : n ≤ greatestMagnitude) :
    readPositive (Nat.toDigits 10 n) = .ok (.ofInt n) := by
  have hread : readMagnitude greatestMagnitude .tooLarge (Nat.toDigits 10 n) 0 = .ok n :=
    (readMagnitude_eq_ok (Nat.zero_le _)).2
      ⟨fun c hc => Nat.isDigit_of_mem_toDigits (by decide) (by decide) hc, by simp, h⟩
  rw [readPositive, hread]
  rfl

theorem readNegative_toDigits {n : Nat} (h : n ≤ leastMagnitude) :
    readNegative (Nat.toDigits 10 n) = .ok (.ofInt (-n)) := by
  have hread : readMagnitude leastMagnitude .tooSmall (Nat.toDigits 10 n) 0 = .ok n :=
    (readMagnitude_eq_ok (Nat.zero_le _)).2
      ⟨fun c hc => Nat.isDigit_of_mem_toDigits (by decide) (by decide) hc, by simp, h⟩
  rw [readNegative, hread]
  rfl

/-- The decimal text of an integer: its digits, behind a minus if it is negative. -/
theorem toList_toString (i : Int64) :
    (toString i).toList =
      if 0 ≤ i.toInt then Nat.toDigits 10 i.toInt.toNat
      else '-' :: Nat.toDigits 10 (-i.toInt).toNat := by
  show (Int.repr i.toInt).toList = _
  rw [Int.repr_eq_if]
  split <;> simp

theorem toList_toString_ne_nil (i : Int64) : (toString i).toList ≠ [] := by
  rw [toList_toString]
  split <;> simp

theorem isDigit_or_eq_of_mem_toString {i : Int64} {c : Char} (h : c ∈ (toString i).toList) :
    c.isDigit ∨ c = '-' := by
  rw [toList_toString] at h
  split at h
  · exact .inl (Nat.isDigit_of_mem_toDigits (by decide) (by decide) h)
  · cases List.mem_cons.1 h with
    | inl hc => exact .inr hc
    | inr hc => exact .inl (Nat.isDigit_of_mem_toDigits (by decide) (by decide) hc)

/-- Every integer is read back from its decimal text. -/
theorem integer_toString (i : Int64) : integer (toString i) = .ok i := by
  have hmin := i.minValue_le_toInt
  have hmax := i.toInt_le
  rw [integer, toList_toString]
  split
  · next hnonneg =>
    have hle : i.toInt.toNat ≤ greatestMagnitude := by
      show i.toInt.toNat ≤ Int64.maxValue.toInt.natAbs
      omega
    have hpos := readPositive_toDigits hle
    cases hdigits : Nat.toDigits 10 i.toInt.toNat with
    | nil => exact absurd hdigits Nat.toDigits_ne_nil
    | cons c cs =>
      have hc : c.isDigit := Nat.isDigit_of_mem_toDigits (by decide) (by decide)
        (hdigits ▸ List.mem_cons_self)
      rw [readInteger_of_isDigit hc, ← hdigits, hpos, Int.toNat_of_nonneg hnonneg,
        Int64.ofInt_toInt]
  · next hneg =>
    have hle : (-i.toInt).toNat ≤ leastMagnitude := by
      show (-i.toInt).toNat ≤ Int64.minValue.toInt.natAbs
      omega
    rw [readInteger_minus Nat.toDigits_ne_nil, readNegative_toDigits hle,
      Int.toNat_of_nonneg (by omega), Int.neg_neg, Int64.ofInt_toInt]

end Sandbox.Text
