-- SUMMARY: Decimal and hexadecimal digits as characters.

/-!
# Digits

A decimal digit is a number below ten. A hexadecimal digit keeps its character,
because a text may write it in either case.
-/

namespace Sandbox.Text

abbrev Digit := Fin 10

def Digit.zero : Digit := ⟨0, by decide⟩

def Digit.char (d : Digit) : Char := Nat.digitChar d

def Digit.ofChar? (c : Char) : Option Digit :=
  if h : 48 ≤ c.toNat ∧ c.toNat < 58 then some ⟨c.toNat - 48, by omega⟩ else none

@[simp] theorem Digit.ofChar?_char (d : Digit) : Digit.ofChar? d.char = some d := by
  revert d; decide

theorem Digit.char_of_ofChar? {c : Char} {d : Digit} (h : Digit.ofChar? c = some d) :
    d.char = c := by
  unfold Digit.ofChar? at h
  split at h
  · next hc =>
    cases h
    have hall : ∀ n, (hn : n < 58) → 48 ≤ n → Nat.digitChar (n - 48) = Char.ofNat n := by decide
    simp only [Digit.char]
    rw [hall c.toNat hc.2 hc.1, Char.ofNat_toNat]
  · cases h

/-- The value of a character as a hexadecimal digit. -/
def hexValue? (c : Char) : Option Nat :=
  let n := c.toNat
  if 48 ≤ n ∧ n < 58 then some (n - 48)
  else if 97 ≤ n ∧ n < 103 then some (n - 87)
  else if 65 ≤ n ∧ n < 71 then some (n - 55)
  else none

abbrev HexDigit := { c : Char // (hexValue? c).isSome }

def HexDigit.value (d : HexDigit) : Nat := (hexValue? d.val).get d.property

def HexDigit.ofChar? (c : Char) : Option HexDigit :=
  if h : (hexValue? c).isSome then some ⟨c, h⟩ else none

end Sandbox.Text
