-- SUMMARY: The bytes of a text decode to the text.
import Sandbox.Text.System

/-!
# Texts as bytes

The first byte of a character tells how many bytes follow, and these carry six
bits each. A decoder between characters takes the bytes of a character for just
that character, and so the bytes of a text for the text.
-/

namespace Sandbox

namespace Text.Utf8

/-! ## Bytes that continue a character -/

/-- The byte that carries the lowest six bits of a number. -/
def continuation (n : Nat) : UInt8 := .ofNat (n % 64 + 0x80)

theorem toNat_continuation (n : Nat) : (continuation n).toNat = n % 64 + 0x80 := by
  rw [continuation, UInt8.toNat_ofNat']
  omega

/-- A byte within bounds that is not the last one owed. -/
theorem decodeFrom_continue {owed value n : Nat} {low high : UInt8} {rest : List UInt8}
    (hlow : low.toNat ≤ n % 64 + 0x80) (hhigh : n % 64 + 0x80 ≤ high.toNat) :
    decodeFrom (.inside (owed + 1) low high value) (continuation n :: rest) =
      decodeFrom (.inside owed 0x80 0xBF (value * 64 + n % 64)) rest := by
  rw [← toNat_continuation] at hlow hhigh
  rw [decodeFrom, step, if_pos ⟨UInt8.le_iff_toNat_le.2 hlow, UInt8.le_iff_toNat_le.2 hhigh⟩,
    toNat_continuation, Nat.add_sub_cancel]
  rfl

/-- The last byte owed settles the character. -/
theorem decodeFrom_settle {value n : Nat} {low high : UInt8} {rest : List UInt8}
    (hlow : low.toNat ≤ n % 64 + 0x80) (hhigh : n % 64 + 0x80 ≤ high.toNat) :
    decodeFrom (.inside 0 low high value) (continuation n :: rest) =
      some (Char.ofNat (value * 64 + n % 64)) :: decode rest := by
  rw [← toNat_continuation] at hlow hhigh
  rw [decodeFrom, step, if_pos ⟨UInt8.le_iff_toNat_le.2 hlow, UInt8.le_iff_toNat_le.2 hhigh⟩,
    toNat_continuation, Nat.add_sub_cancel]
  rfl

/-! ## Characters -/

theorem decode_of_first {b : UInt8} {state : State} (h : first b = ([], state))
    (rest : List UInt8) : decode (b :: rest) = decodeFrom state rest := by
  rw [decode, decodeFrom, step, h]
  rfl

theorem decode_one {n : Nat} (rest : List UInt8) (h : n ≤ 0x7F) :
    decode (.ofNat n :: rest) = some (Char.ofNat n) :: decode rest := by
  have hn : (UInt8.ofNat n).toNat = n := by rw [UInt8.toNat_ofNat']; omega
  rw [decode, decodeFrom, step, first, hn, if_pos (by omega)]
  rfl

theorem decode_two {n : Nat} (rest : List UInt8) (hlow : 0x7F < n) (hhigh : n ≤ 0x7FF) :
    decode (.ofNat (n / 64 % 0x20 + 0xC0) :: continuation n :: rest) =
      some (Char.ofNat n) :: decode rest := by
  have hlead : (UInt8.ofNat (n / 64 % 0x20 + 0xC0)).toNat = n / 64 + 0xC0 := by
    rw [UInt8.toNat_ofNat']
    omega
  have hvalue : n / 64 * 64 + n % 64 = n := by omega
  have hfirst : first (.ofNat (n / 64 % 0x20 + 0xC0)) = ([], .inside 0 0x80 0xBF (n / 64)) := by
    rw [first, hlead, if_neg (by omega), if_neg (by omega), if_pos (by omega),
      Nat.add_sub_cancel]
  rw [decode_of_first hfirst,
    decodeFrom_settle (Nat.le_add_left _ _) (show _ ≤ 0xBF by omega), hvalue]

/-- The bounds of the second byte keep out what fewer bytes could write, and surrogates. -/
theorem decode_three {n : Nat} (rest : List UInt8) (hlow : 0x7FF < n) (hhigh : n ≤ 0xFFFF)
    (hvalid : n < 0xD800 ∨ 0xDFFF < n) :
    decode (.ofNat (n / 4096 % 0x10 + 0xE0) :: continuation (n / 64) :: continuation n :: rest) =
      some (Char.ofNat n) :: decode rest := by
  have hlead : (UInt8.ofNat (n / 4096 % 0x10 + 0xE0)).toNat = n / 4096 + 0xE0 := by
    rw [UInt8.toNat_ofNat']
    omega
  have hvalue : (n / 4096 * 64 + n / 64 % 64) * 64 + n % 64 = n := by omega
  have hfirst : first (.ofNat (n / 4096 % 0x10 + 0xE0)) =
      ([], .inside 1 (if n / 4096 + 0xE0 = 0xE0 then 0xA0 else 0x80)
        (if n / 4096 + 0xE0 = 0xED then 0x9F else 0xBF) (n / 4096)) := by
    rw [first, hlead, if_neg (by omega), if_neg (by omega), if_neg (by omega),
      if_pos (by omega), Nat.add_sub_cancel]
  rw [decode_of_first hfirst, decodeFrom_continue,
    decodeFrom_settle (Nat.le_add_left _ _) (show _ ≤ 0xBF by omega), hvalue]
  case hlow =>
    split
    · show 0xA0 ≤ _
      omega
    · exact Nat.le_add_left _ _
  case hhigh =>
    split
    · show _ ≤ 0x9F
      omega
    · show _ ≤ 0xBF
      omega

/-- The bounds of the second byte keep out what fewer bytes could write, and what is no
    character for being too large. -/
theorem decode_four {n : Nat} (rest : List UInt8) (hlow : 0xFFFF < n) (hhigh : n ≤ 0x10FFFF) :
    decode (.ofNat (n / 262144 % 0x08 + 0xF0) :: continuation (n / 4096) ::
      continuation (n / 64) :: continuation n :: rest) = some (Char.ofNat n) :: decode rest := by
  have hlead : (UInt8.ofNat (n / 262144 % 0x08 + 0xF0)).toNat = n / 262144 + 0xF0 := by
    rw [UInt8.toNat_ofNat']
    omega
  have hvalue : ((n / 262144 * 64 + n / 4096 % 64) * 64 + n / 64 % 64) * 64 + n % 64 = n := by
    omega
  have hfirst : first (.ofNat (n / 262144 % 0x08 + 0xF0)) =
      ([], .inside 2 (if n / 262144 + 0xF0 = 0xF0 then 0x90 else 0x80)
        (if n / 262144 + 0xF0 = 0xF4 then 0x8F else 0xBF) (n / 262144)) := by
    rw [first, hlead, if_neg (by omega), if_neg (by omega), if_neg (by omega),
      if_neg (by omega), if_pos (by omega), Nat.add_sub_cancel]
  rw [decode_of_first hfirst, decodeFrom_continue,
    decodeFrom_continue (Nat.le_add_left _ _) (show _ ≤ 0xBF by omega),
    decodeFrom_settle (Nat.le_add_left _ _) (show _ ≤ 0xBF by omega), hvalue]
  case hlow =>
    split
    · show 0x90 ≤ _
      omega
    · exact Nat.le_add_left _ _
  case hhigh =>
    split
    · show _ ≤ 0x8F
      omega
    · show _ ≤ 0xBF
      omega

/-- The bytes of a character decode to it, whatever follows. -/
theorem decode_utf8EncodeChar (c : Char) (rest : List UInt8) :
    decode (String.utf8EncodeChar c ++ rest) = some c :: decode rest := by
  have hc : Char.ofNat c.val.toNat = c := Char.ofNat_toNat c
  have hvalid : c.val.toNat < 0xD800 ∨ 0xDFFF < c.val.toNat ∧ c.val.toNat < 0x110000 := c.valid
  unfold String.utf8EncodeChar
  dsimp only
  split
  · next hone => rw [List.singleton_append, decode_one rest hone, hc]
  · next hone =>
    split
    · next htwo =>
      have h := decode_two rest (Nat.not_le.1 hone) htwo
      rw [hc] at h
      exact h
    · next htwo =>
      split
      · next hthree =>
        have h := decode_three rest (Nat.not_le.1 htwo) hthree (hvalid.imp_right And.left)
        rw [hc] at h
        exact h
      · next hthree =>
        have h := decode_four rest (Nat.not_le.1 hthree) (by omega)
        rw [hc] at h
        exact h

/-! ## Texts -/

theorem bytes_eq_flatMap (s : String) : bytes s = s.toList.flatMap String.utf8EncodeChar := by
  rw [bytes, String.toUTF8_eq_toByteArray, ← String.utf8Encode_toList, List.utf8Encode,
    List.data_toByteArray]

/-- The bytes of a text decode to its characters. -/
theorem decode_toUTF8 (s : String) : decode s.toUTF8.data.toList = symbols s := by
  have hchars : ∀ cs : List Char, decode (cs.flatMap String.utf8EncodeChar) = cs.map some := by
    intro cs
    induction cs with
    | nil => rfl
    | cons c cs ih => rw [List.flatMap_cons, decode_utf8EncodeChar, ih, List.map_cons]
  have hbytes : s.toUTF8.data.toList = s.toList.flatMap String.utf8EncodeChar := bytes_eq_flatMap s
  rw [hbytes, hchars, symbols]

end Text.Utf8

/-! ## Texts of the system -/

namespace SystemText

/-- The bytes of a text encode that text, and no other bytes do. -/
theorem text?_eq_some_iff {t : SystemText} {s : String} : t.text? = some s ↔ t = s := by
  unfold text? String.fromUTF8?
  constructor
  · intro h
    split at h
    · cases h
      rfl
    · cases h
  · intro h
    subst h
    exact dif_pos s.isValidUTF8

theorem text?_ofString (s : String) : (ofString s).text? = some s := text?_eq_some_iff.2 rfl

theorem ofString_injective {s s' : String} (h : ofString s = ofString s') : s = s' := by
  have htext := text?_ofString s'
  rw [← h, text?_ofString] at htext
  exact Option.some.inj htext

end SystemText
end Sandbox
