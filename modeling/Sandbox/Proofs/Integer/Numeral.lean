-- SUMMARY: Numerals: which texts are read as positive integers, and which of them are written back.
import Sandbox.Proofs.Checks
import Sandbox.Proofs.Integer

/-!
# Numerals

A positive integer is read from digits, at least one, with a plus ahead of them
or not, as long as it is in range. It is written without a plus and without
leading zeros, so only a canonical numeral is what its value is written as.
-/

namespace Sandbox.Text

open Checks

/-- Digits, at least one, with a plus ahead of them or not. -/
structure Numeral where
  plus : Bool
  digits : List Char
  nonempty : digits ≠ []
  decimal : ∀ c ∈ digits, c.isDigit

namespace Numeral

def chars (n : Numeral) : List Char := if n.plus then '+' :: n.digits else n.digits

def text (n : Numeral) : String := .ofList n.chars

def value (n : Numeral) : Nat := Nat.ofDigitChars 10 n.digits 0

/-- There is no plus, and no zero ahead of other digits. -/
def Canonical (n : Numeral) : Prop :=
  n.plus = false ∧ (n.digits.head? = some '0' → n.digits = ['0'])

theorem not_mem_chars {c : Char} (hplus : c ≠ '+') (hdigit : ¬ c.isDigit) (n : Numeral) :
    c ∉ n.chars := by
  have hdigits : c ∉ n.digits := fun hmem => hdigit (n.decimal c hmem)
  unfold chars
  split
  · simp [hplus, hdigits]
  · exact hdigits

theorem chars_ne_nil (n : Numeral) : n.chars ≠ [] := by
  unfold chars
  split
  · exact List.cons_ne_nil _ _
  · exact n.nonempty

end Numeral

/-! ## Reading -/

theorem readPositive_eq_ok {cs : List Char} {i : Int64} :
    readPositive cs = .ok i ↔
      (∀ c ∈ cs, c.isDigit) ∧ (Nat.ofDigitChars 10 cs 0 : Int) = i.toInt := by
  have hlimit : greatestMagnitude = 9223372036854775807 := rfl
  simp only [readPositive, bind_eq_ok, readMagnitude_eq_ok (Nat.zero_le _)]
  constructor
  · rintro ⟨n, ⟨hdigits, rfl, hle⟩, hi⟩
    obtain rfl := Except.ok.inj hi
    exact ⟨hdigits, (Int64.toInt_ofInt_of_le (by omega) (by omega)).symm⟩
  · rintro ⟨hdigits, hi⟩
    have hmax : i.toInt ≤ 9223372036854775807 := i.toInt_le
    refine ⟨_, ⟨hdigits, rfl, by omega⟩, ?_⟩
    rw [hi, Int64.ofInt_toInt]
    rfl

theorem toInt_nonpos_of_readNegative {cs : List Char} {i : Int64} (h : readNegative cs = .ok i) :
    i.toInt ≤ 0 := by
  have hlimit : leastMagnitude = 9223372036854775808 := rfl
  simp only [readNegative, bind_eq_ok, readMagnitude_eq_ok (Nat.zero_le _)] at h
  obtain ⟨n, ⟨-, -, hle⟩, hi⟩ := h
  obtain rfl := Except.ok.inj hi
  rw [Int64.toInt_ofInt_of_le (by omega) (by omega)]
  omega

theorem readInteger_plus {cs : List Char} (h : cs ≠ []) :
    readInteger ('+' :: cs) = readPositive cs := by
  cases cs with
  | nil => exact absurd rfl h
  | cons c cs => rfl

theorem Numeral.readInteger_chars (n : Numeral) : readInteger n.chars = readPositive n.digits := by
  obtain ⟨plus, digits, hne, hdigits⟩ := n
  cases plus with
  | true => exact readInteger_plus hne
  | false =>
    cases digits with
    | nil => exact absurd rfl hne
    | cons c cs => exact readInteger_of_isDigit (hdigits c List.mem_cons_self)

/-- A positive integer is read from the numerals of its value and from no other text. -/
theorem readInteger_eq_ok_iff {cs : List Char} {i : Int64} (hi : 1 ≤ i) :
    readInteger cs = .ok i ↔ ∃ n : Numeral, n.chars = cs ∧ (n.value : Int) = i.toInt := by
  constructor
  · intro h
    unfold readInteger at h
    split at h
    · cases h
    · cases h
    · cases h
    · next digits hne =>
      obtain ⟨hdigits, hvalue⟩ := readPositive_eq_ok.1 h
      exact ⟨⟨true, digits, hne, hdigits⟩, rfl, hvalue⟩
    · have hle := toInt_nonpos_of_readNegative h
      have hpos : 1 ≤ i.toInt := Int64.le_iff_toInt_le.1 hi
      omega
    · next hne _ _ _ _ =>
      obtain ⟨hdigits, hvalue⟩ := readPositive_eq_ok.1 h
      exact ⟨⟨false, cs, hne, hdigits⟩, rfl, hvalue⟩
  · rintro ⟨n, rfl, hvalue⟩
    rw [n.readInteger_chars]
    exact readPositive_eq_ok.2 ⟨n.decimal, hvalue⟩

/-! ## Writing -/

theorem digitChar_of_isDigit {c : Char} (h : c.isDigit) :
    Nat.digitChar (c.toNat - '0'.toNat) = c ∧ c.toNat - '0'.toNat < 10 := by
  obtain ⟨d, hd, hval⟩ := Digit.ofChar?_of_isDigit h
  rw [← hval]
  exact ⟨Digit.char_of_ofChar? hd, d.isLt⟩

/-- Digits behind those of a number above zero are the last digits of what both write. -/
theorem toDigits_append {n : Nat} {cs : List Char} (hn : 0 < n) (h : ∀ c ∈ cs, c.isDigit) :
    Nat.toDigits 10 n ++ cs = Nat.toDigits 10 (Nat.ofDigitChars 10 cs n) := by
  induction cs generalizing n with
  | nil => simp
  | cons c cs ih =>
    obtain ⟨hc, hcs⟩ := List.forall_mem_cons.1 h
    obtain ⟨hchar, hlt⟩ := digitChar_of_isDigit hc
    have hlast : Nat.toDigits 10 n ++ [c] = Nat.toDigits 10 (10 * n + (c.toNat - '0'.toNat)) := by
      rw [← Nat.toDigits_append_toDigits (by decide) hn hlt, Nat.toDigits_of_lt_base hlt, hchar]
    rw [Nat.ofDigitChars_cons, ← ih (by omega) hcs, ← hlast, List.append_assoc]
    rfl

/-- A number is written with just the digits it is read from exactly if no zero stands ahead of
    others. -/
theorem toDigits_ofDigitChars_iff {cs : List Char} (hne : cs ≠ []) (h : ∀ c ∈ cs, c.isDigit) :
    Nat.toDigits 10 (Nat.ofDigitChars 10 cs 0) = cs ↔ (cs.head? = some '0' → cs = ['0']) := by
  constructor
  · intro hdigits hhead
    have hzero : Nat.ofDigitChars 10 cs 0 = 0 := by
      by_contra hpos
      rw [← hdigits] at hhead
      exact head?_toDigits_ne_zero (by decide) (Nat.pos_of_ne_zero hpos) hhead
    rw [hzero, Nat.toDigits_zero] at hdigits
    exact hdigits.symm
  · intro hlead
    cases cs with
    | nil => exact absurd rfl hne
    | cons c cs =>
      obtain ⟨hc, hcs⟩ := List.forall_mem_cons.1 h
      obtain ⟨hchar, hlt⟩ := digitChar_of_isDigit hc
      by_cases hzero : c = '0'
      · subst hzero
        rw [hlead rfl]
        rfl
      · have hpos : 0 < c.toNat - '0'.toNat := by
          refine Nat.pos_of_ne_zero fun hnil => hzero ?_
          rw [← hchar, hnil]
          rfl
        rw [Nat.ofDigitChars_cons, Nat.mul_zero, Nat.zero_add, ← toDigits_append hpos hcs,
          Nat.toDigits_of_lt_base hlt, hchar]
        rfl

/-- What a positive integer is written as is its canonical numeral. -/
theorem Numeral.toString_eq_chars_iff {n : Numeral} {i : Int64} (h : (n.value : Int) = i.toInt) :
    (toString i).toList = n.chars ↔ n.Canonical := by
  have hnat : i.toInt.toNat = n.value := by omega
  rw [toList_toString, if_pos (by omega), hnat]
  obtain ⟨plus, digits, hne, hdigits⟩ := n
  unfold value chars Canonical
  cases plus with
  | true =>
    simp only [if_true, reduceCtorEq, false_and, iff_false]
    intro hplus
    have hmem : '+' ∈ Nat.toDigits 10 (Nat.ofDigitChars 10 digits 0) :=
      hplus ▸ List.mem_cons_self
    exact absurd (Nat.isDigit_of_mem_toDigits (by decide) (by decide) hmem) (by decide)
  | false =>
    simp only [Bool.false_eq_true, if_false, true_and]
    exact toDigits_ofDigitChars_iff hne hdigits

end Sandbox.Text
