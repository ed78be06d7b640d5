-- SUMMARY: What a text is cut to is the longest of its beginnings that fits.
import Mathlib.Data.List.Infix
import Sandbox.Text.Cut

/-!
# Longest beginnings

Of all texts that another one begins with, the longest that fits a number of bytes
is one text. It lacks less than a character of the limit, unless nothing has to be
left out. A text is cut to just this one: walking back from the limit passes only
positions inside a character, and no beginning ends at one of these.
-/

namespace Sandbox.Text

/-! ## Boundaries -/

theorem boundary_le (s : String) (n : Nat) : boundary s n ≤ n := by
  induction n with
  | zero => exact Nat.le_refl 0
  | succ n ih =>
    unfold boundary
    split
    · exact Nat.le_refl _
    · exact Nat.le_succ_of_le ih

/-- Walking back from a position stops at the first one that is inside no character. -/
theorem le_boundary {s : String} {p n : Nat} (hvalid : (String.Pos.Raw.mk p).IsValid s)
    (hp : p ≤ n) : p ≤ boundary s n := by
  induction n with
  | zero => exact hp
  | succ n ih =>
    unfold boundary
    split
    · exact hp
    · next hinside =>
      refine ih (Nat.le_of_lt_succ (Nat.lt_of_le_of_ne hp ?_))
      rintro rfl
      exact hinside (String.Pos.Raw.isValid_eq_true_iff.2 hvalid)

/-! ## Beginnings -/

/-- `s` begins with all the characters of `t`. -/
def Begins (t s : String) : Prop := ∃ rest, s = t ++ rest

namespace Begins

variable {t t' s : String}

theorem refl (s : String) : Begins s s := ⟨"", by simp⟩

theorem iff_toList : Begins t s ↔ t.toList <+: s.toList := by
  constructor
  · intro h
    obtain ⟨rest, rfl⟩ := h
    exact ⟨rest.toList, String.toList_append.symm⟩
  · intro h
    obtain ⟨rest, hrest⟩ := h
    refine ⟨.ofList rest, String.toList_inj.1 ?_⟩
    rw [String.toList_append, String.toList_ofList, hrest]

theorem utf8ByteSize_le (h : Begins t s) : t.utf8ByteSize ≤ s.utf8ByteSize := by
  obtain ⟨rest, rfl⟩ := h
  rw [String.utf8ByteSize_append]
  exact Nat.le_add_right _ _

theorem eq_of_le (h : Begins t s) (hle : s.utf8ByteSize ≤ t.utf8ByteSize) : t = s := by
  obtain ⟨rest, rfl⟩ := h
  rw [String.utf8ByteSize_append] at hle
  have hrest : rest = "" := String.utf8ByteSize_eq_zero_iff.1 (by omega)
  rw [hrest, String.append_empty]

/-- Of two beginnings of one text the shorter begins the longer. -/
theorem of_le (h' : Begins t' s) (h : Begins t s) (hle : t'.utf8ByteSize ≤ t.utf8ByteSize) :
    Begins t' t := by
  rcases List.prefix_or_prefix_of_prefix (iff_toList.1 h') (iff_toList.1 h) with hprefix | hprefix
  · exact iff_toList.2 hprefix
  · have hbegins : Begins t t' := iff_toList.2 hprefix
    rw [hbegins.eq_of_le hle]
    exact refl t'

/-- A beginning ends at a position that lies inside no character. -/
theorem isValid (h : Begins t s) : (String.Pos.Raw.mk t.utf8ByteSize).IsValid s := by
  obtain ⟨rest, rfl⟩ := h
  exact String.Pos.Raw.isValid_iff_exists_append.2 ⟨t, rest, rfl, rfl⟩

end Begins

/-! ## The longest one -/

/-- Of the beginnings of `s` with at most `limit` bytes, `t` is the longest. -/
structure LongestWithin (limit : Nat) (s t : String) : Prop where
  begins : Begins t s
  fits : t.utf8ByteSize ≤ limit
  longest : ∀ t', Begins t' s → t'.utf8ByteSize ≤ limit → Begins t' t

namespace LongestWithin

variable {limit : Nat} {s t t' : String}

theorem unique (h : LongestWithin limit s t) (h' : LongestWithin limit s t') : t = t' :=
  (h'.longest t h.begins h.fits).eq_of_le (h.longest t' h'.begins h'.fits).utf8ByteSize_le

theorem of_fits (h : s.utf8ByteSize ≤ limit) : LongestWithin limit s s where
  begins := .refl s
  fits := h
  longest := fun _ hbegins _ => hbegins

/-- What is left of a text that does not fit lacks less than a character of the limit. -/
theorem lt_add_four (h : LongestWithin limit s t) (hs : limit < s.utf8ByteSize) :
    limit < t.utf8ByteSize + 4 := by
  obtain ⟨rest, hrest⟩ := h.begins
  cases hchars : rest.toList with
  | nil =>
    have hempty : rest = "" := String.toList_eq_nil_iff.1 hchars
    rw [hrest, hempty, String.append_empty] at hs
    exact absurd h.fits (Nat.not_le.2 hs)
  | cons c more =>
    have hsplit : rest = String.singleton c ++ .ofList more := by
      rw [← String.toList_inj, hchars]
      simp
    have hlonger : Begins (t ++ String.singleton c) s :=
      ⟨.ofList more, by rw [hrest, hsplit, String.append_assoc]⟩
    have hsize : (t ++ String.singleton c).utf8ByteSize = t.utf8ByteSize + c.utf8Size := by simp
    have hpositive : 0 < c.utf8Size := c.utf8Size_pos
    have hfour : c.utf8Size ≤ 4 := c.utf8Size_le_four
    -- With one more character the beginning would be longer than the longest.
    by_contra hle
    have hbegins := (h.longest _ hlonger (by omega)).utf8ByteSize_le
    omega

end LongestWithin

/-- A text is cut to the longest of its beginnings within the limit. -/
theorem longestWithin_cut (limit : Nat) (s : String) : LongestWithin limit s (cut limit s) := by
  unfold cut
  split
  · next hfits => exact .of_fits hfits
  · let p := s.pos ⟨boundary s limit⟩ (isValid_boundary s limit)
    have hsize : (s.sliceTo p).copy.utf8ByteSize = boundary s limit := by simp [p]
    have hbegins : Begins (s.sliceTo p).copy s := ⟨_, (String.Pos.splits p).eq_append⟩
    constructor
    case begins => exact hbegins
    case fits =>
      rw [hsize]
      exact boundary_le s limit
    case longest =>
      intro t' ht' hfits
      refine ht'.of_le hbegins ?_
      rw [hsize]
      exact le_boundary ht'.isValid hfits

theorem longestWithin_iff {limit : Nat} {s t : String} :
    LongestWithin limit s t ↔ t = cut limit s := by
  constructor
  · intro h
    exact h.unique (longestWithin_cut limit s)
  · rintro rfl
    exact longestWithin_cut limit s

example : cut 2 "héllo" = "h" := by cbv

end Sandbox.Text
