-- SUMMARY: Texts compare as their bytes do.
import Mathlib.Data.Char
import Sandbox.Proofs.Utf8

/-!
# The order of texts

The first byte of a character grows with the number of bytes that follow it, and
these are the digits of the character in base 64. So a lesser character has the
lesser byte where its bytes first differ from those of another, and texts are
ordered by their bytes just as by their characters.
-/

namespace Sandbox.Text.Utf8

/-! ## The bytes of a character -/

/-- The number of bytes behind the first one. -/
def following (n : Nat) : Nat :=
  if n ≤ 0x7F then 0 else if n ≤ 0x7FF then 1 else if n ≤ 0xFFFF then 2 else 3

/-- What is left of a number without its last digits in base 64. -/
def withoutDigits : Nat → Nat → Nat
  | 0, n => n
  | k + 1, n => withoutDigits k (n / 64)

/-- The bytes that carry the last digits in base 64. -/
def continuations : Nat → Nat → List UInt8
  | 0, _ => []
  | k + 1, n => continuations k (n / 64) ++ [continuation n]

/-- What the first byte adds to the digits it carries. -/
def mark : Nat → Nat
  | 0 => 0
  | 1 => 0xC0
  | 2 => 0xE0
  | _ => 0xF0

/-- The first byte of a character. -/
def lead (n : Nat) : Nat := withoutDigits (following n) n + mark (following n)

/-- How many bytes follow the first one depends on the size of the number. -/
theorem lead_cases (n : Nat) :
    (n ≤ 0x7F ∧ following n = 0 ∧ lead n = n) ∨
      (0x7F < n ∧ n ≤ 0x7FF ∧ following n = 1 ∧ lead n = n / 64 + 0xC0) ∨
      (0x7FF < n ∧ n ≤ 0xFFFF ∧ following n = 2 ∧ lead n = n / 64 / 64 + 0xE0) ∨
      (0xFFFF < n ∧ following n = 3 ∧ lead n = n / 64 / 64 / 64 + 0xF0) := by
  unfold lead following
  split
  · exact .inl ⟨‹_›, rfl, rfl⟩
  · split
    · exact .inr (.inl ⟨by omega, ‹_›, rfl, rfl⟩)
    · split
      · exact .inr (.inr (.inl ⟨by omega, ‹_›, rfl, rfl⟩))
      · exact .inr (.inr (.inr ⟨by omega, rfl, rfl⟩))

theorem toNat_lt (c : Char) : c.toNat < 0x110000 := by
  have hvalid : c.toNat < 0xD800 ∨ 0xDFFF < c.toNat ∧ c.toNat < 0x110000 := c.valid
  omega

theorem utf8EncodeChar_eq (c : Char) :
    String.utf8EncodeChar c = .ofNat (lead c.toNat) :: continuations (following c.toNat) c.toNat := by
  have hmax := toNat_lt c
  have hval : c.val.toNat = c.toNat := rfl
  unfold String.utf8EncodeChar
  dsimp only
  rw [hval]
  obtain ⟨hone, hcount, hlead⟩ | ⟨hlow, hhigh, hcount, hlead⟩ | ⟨hlow, hhigh, hcount, hlead⟩ |
    ⟨hlow, hcount, hlead⟩ := lead_cases c.toNat
  · rw [if_pos hone, hcount, hlead]
    rfl
  · rw [if_neg (by omega), if_pos hhigh, hcount, hlead,
      Nat.mod_eq_of_lt (show c.toNat / 64 < 0x20 by omega)]
    rfl
  · rw [if_neg (by omega), if_neg (by omega), if_pos hhigh, hcount, hlead, Nat.div_div_eq_div_mul,
      Nat.mod_eq_of_lt (show c.toNat / 4096 < 0x10 by omega)]
    rfl
  · rw [if_neg (by omega), if_neg (by omega), if_neg (by omega), hcount, hlead,
      Nat.div_div_eq_div_mul, Nat.div_div_eq_div_mul,
      Nat.mod_eq_of_lt (show c.toNat / 262144 < 0x08 by omega)]
    simp only [continuations, List.nil_append, List.cons_append, continuation,
      Nat.div_div_eq_div_mul]

theorem lead_le {m n : Nat} (h : m ≤ n) (hn : n < 0x110000) :
    lead m ≤ lead n ∧ lead n < 256 ∧ (lead m = lead n → following m = following n) := by
  have hm := lead_cases m
  have hn := lead_cases n
  omega

/-! ## Which byte is the lesser one -/

theorem ofNat_cons_lt {m n : Nat} {r s : List UInt8} (hn : n < 256) (hle : m ≤ n)
    (hrest : m = n → r < s) : UInt8.ofNat m :: r < UInt8.ofNat n :: s := by
  rw [List.cons_lt_cons_iff]
  by_cases h : m = n
  · exact .inr ⟨congrArg _ h, hrest h⟩
  · refine .inl (UInt8.lt_iff_toNat_lt.2 ?_)
    rw [UInt8.toNat_ofNat', UInt8.toNat_ofNat']
    omega

theorem append_lt_append_left_iff {bytes r s : List UInt8} : bytes ++ r < bytes ++ s ↔ r < s := by
  induction bytes with
  | nil => rfl
  | cons b bytes ih => rw [List.cons_append, List.cons_append, List.cons_lt_cons_self, ih]

/-- Of numbers that differ in their last digits only, the lesser one has the lesser bytes. -/
theorem continuations_lt {k m n : Nat} (h : m < n) (heq : withoutDigits k m = withoutDigits k n)
    (r s : List UInt8) : continuations k m ++ r < continuations k n ++ s := by
  induction k generalizing m n r s with
  | zero => exact absurd heq (Nat.ne_of_lt h)
  | succ k ih =>
    unfold continuations
    rw [List.append_assoc, List.append_assoc]
    by_cases hdigits : m / 64 = n / 64
    · rw [hdigits, append_lt_append_left_iff]
      refine ofNat_cons_lt (by omega) (by omega) fun hlast => ?_
      omega
    · exact ih (by omega) heq _ _

/-- The bytes of the lesser character come first, whatever follows. -/
theorem utf8EncodeChar_lt {c d : Char} (h : c < d) (r s : List UInt8) :
    String.utf8EncodeChar c ++ r < String.utf8EncodeChar d ++ s := by
  have hlt : c.toNat < d.toNat := h
  obtain ⟨hle, hbyte, hcount⟩ := lead_le (Nat.le_of_lt hlt) (toNat_lt d)
  rw [utf8EncodeChar_eq, utf8EncodeChar_eq, List.cons_append, List.cons_append]
  refine ofNat_cons_lt hbyte hle fun hlead => ?_
  have hfollowing := hcount hlead
  rw [hfollowing]
  refine continuations_lt hlt ?_ r s
  unfold lead at hlead
  rw [hfollowing] at hlead
  exact Nat.add_right_cancel hlead

/-! ## Texts -/

theorem flatMap_utf8EncodeChar_lt_iff {cs ds : List Char} :
    cs.flatMap String.utf8EncodeChar < ds.flatMap String.utf8EncodeChar ↔ cs < ds := by
  induction cs generalizing ds with
  | nil =>
    cases ds with
    | nil => simp
    | cons d ds =>
      rw [List.flatMap_cons, utf8EncodeChar_eq]
      simp
  | cons c cs ih =>
    cases ds with
    | nil => simp
    | cons d ds =>
      rw [List.flatMap_cons, List.flatMap_cons, List.cons_lt_cons_iff]
      rcases lt_trichotomy c d with hlt | rfl | hgt
      · simp [hlt, utf8EncodeChar_lt hlt]
      · simp [append_lt_append_left_iff, ih]
      · have hnot := List.lt_asymm (utf8EncodeChar_lt hgt (ds.flatMap String.utf8EncodeChar)
          (cs.flatMap String.utf8EncodeChar))
        simp [hnot, lt_asymm hgt, ne_of_gt hgt]

/-- Texts are ordered by their characters just as by their bytes. -/
theorem compare_eq_lt_iff {s t : String} : compare s t = .lt ↔ bytes s < bytes t := by
  rw [bytes_eq_flatMap, bytes_eq_flatMap, flatMap_utf8EncodeChar_lt_iff]
  exact compareOfLessAndEq_eq_lt

end Sandbox.Text.Utf8
