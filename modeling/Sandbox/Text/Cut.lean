-- SUMMARY: The longest beginning of a text that fits a number of UTF-8 bytes.

/-!
# Cutting a text to a number of bytes

A text that is too long is cut at its last boundary within the limit. A boundary
is a byte position that lies inside no character, so whole characters are kept.
-/

namespace Sandbox.Text

/-- The number of bytes that encode the characters in UTF-8. -/
def utf8Length : List Char → Nat
  | [] => 0
  | c :: rest => c.utf8Size + utf8Length rest

/-- Walks back from a byte position of a text until it lies inside no character. -/
def boundary (s : String) : Nat → Nat
  | 0 => 0
  | n + 1 => if String.Pos.Raw.isValid s ⟨n + 1⟩ then n + 1 else boundary s n

theorem isValid_boundary (s : String) (n : Nat) :
    (String.Pos.Raw.mk (boundary s n)).IsValid s := by
  induction n with
  | zero => exact String.Pos.Raw.isValid_zero
  | succ n ih =>
    unfold boundary
    split
    · next h => exact String.Pos.Raw.isValid_eq_true_iff.1 h
    · exact ih

/-- A text may only be divided where no character is, hence the proof. -/
def cut (limit : Nat) (s : String) : String :=
  if s.utf8ByteSize ≤ limit then s
  else (s.sliceTo (s.pos ⟨boundary s limit⟩ (isValid_boundary s limit))).copy

end Sandbox.Text
