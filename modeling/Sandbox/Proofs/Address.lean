-- SUMMARY: The text of an address reads back as the address.
import Mathlib.Data.List.Basic
import Sandbox.Address.Printer
import Sandbox.Address.Reader
import Sandbox.Proofs.Integer

/-!
# Reading addresses back

Octets and groups are found again because the character behind them is no digit.
The groups before and behind `::` are read up to where the text stops, and the
groups left out between them are the zeros that the printer counted.
-/

namespace Sandbox.Address

open Sandbox.Text (hexValue?)

-- ---------------------------------------------------------------------------
-- Numerals
-- ---------------------------------------------------------------------------

theorem hexValue?_digitChar {d : Nat} (h : d < 16) : hexValue? d.digitChar = some d := by
  have hall : ∀ d : Fin 16, hexValue? (Nat.digitChar d) = some d.val := by decide
  exact hall ⟨d, h⟩

/-- The digits of a number write that number, in every base that has digits. -/
theorem numeral_toDigits {base : Nat} (hone : 1 < base) (hbase : base ≤ 16) (n : Nat) :
    numeral base (Nat.toDigits base n) = n := by
  induction n using Nat.strongRecOn with
  | _ n ih =>
    rw [Nat.toDigits_eq_if hone]
    split
    · next hlt => simp [numeral, hexValue?_digitChar (Nat.lt_of_lt_of_le hlt hbase)]
    · next hle =>
      have hlast : n % base < 16 :=
        Nat.lt_of_lt_of_le (Nat.mod_lt _ (by omega)) hbase
      have hrec := ih (n / base) (Nat.div_lt_self (by omega) hone)
      simp only [numeral] at hrec
      simp only [numeral, List.foldl_append, hrec, List.foldl_cons, List.foldl_nil,
        hexValue?_digitChar hlast, Option.getD_some]
      exact Nat.div_add_mod' n base

theorem isHexadecimal_of_mem_toDigits {base : Nat} (hone : 1 < base) (hbase : base ≤ 16) {n : Nat}
    {c : Char} (h : c ∈ Nat.toDigits base n) : isHexadecimal c := by
  induction n using Nat.strongRecOn with
  | _ n ih =>
    rw [Nat.toDigits_eq_if hone] at h
    split at h
    · next hlt =>
      obtain rfl := List.mem_singleton.1 h
      simp [isHexadecimal, hexValue?_digitChar (Nat.lt_of_lt_of_le hlt hbase)]
    · next hle =>
      cases List.mem_append.1 h with
      | inl hmem => exact ih (n / base) (Nat.div_lt_self (by omega) hone) hmem
      | inr hmem =>
        obtain rfl := List.mem_singleton.1 hmem
        have hlast : n % base < 16 :=
          Nat.lt_of_lt_of_le (Nat.mod_lt _ (by omega)) hbase
        simp [isHexadecimal, hexValue?_digitChar hlast]

/-- A number below a power of its base has at least one digit and no more than the exponent. -/
theorem not_empty_or_long_toDigits {base n k : Nat} (hone : 1 < base) (hk : 0 < k)
    (h : n < Nat.pow base k) :
    ¬ (Nat.toDigits base n = [] ∨ k < (Nat.toDigits base n).length) := by
  rintro (hnil | hlong)
  · exact Nat.toDigits_ne_nil hnil
  · exact Nat.not_le.2 hlong ((Nat.length_toDigits_le_iff hone hk).2 h)

-- ---------------------------------------------------------------------------
-- Octets
-- ---------------------------------------------------------------------------

/-- The text is at its end, or at a character that does not belong to the number before. -/
def Stops (p : Char → Bool) (rest : List Char) : Prop := ∀ c ∈ rest.head?, p c = false

theorem Stops.nil {p : Char → Bool} : Stops p [] := by
  intro c hc
  cases hc

theorem Stops.cons {p : Char → Bool} {c : Char} {rest : List Char} (h : p c = false) :
    Stops p (c :: rest) := by
  rintro _ ⟨⟩
  exact h

theorem takeWhile_append_of_stops {p : Char → Bool} {digits rest : List Char}
    (hdigits : ∀ c ∈ digits, p c) (hrest : Stops p rest) :
    (digits ++ rest).takeWhile p = digits := by
  rw [List.takeWhile_append_of_pos hdigits]
  cases rest with
  | nil => simp
  | cons c rest => simp [hrest c rfl]

theorem dropWhile_append_of_stops {p : Char → Bool} {digits rest : List Char}
    (hdigits : ∀ c ∈ digits, p c) (hrest : Stops p rest) :
    (digits ++ rest).dropWhile p = rest := by
  rw [List.dropWhile_append_of_pos hdigits]
  cases rest with
  | nil => simp
  | cons c rest => simp [hrest c rfl]

theorem isDecimal_of_mem_octetChars {o : UInt8} {c : Char} (h : c ∈ octetChars o) :
    isDecimal c :=
  Nat.isDigit_of_mem_toDigits (by decide) (by decide) h

theorem readOctet_octetChars (o : UInt8) {rest : List Char} (h : Stops isDecimal rest) :
    readOctet (octetChars o ++ rest) = some (o, rest) := by
  have hlt : o.toNat < 256 := o.toNat_lt
  have hempty : ¬ (octetChars o = [] ∨ 3 < (octetChars o).length) :=
    not_empty_or_long_toDigits (by decide) (by decide) (Nat.lt_of_lt_of_le hlt (by decide))
  have hzero : ¬ ((octetChars o).head? = some '0' ∧ 1 < (octetChars o).length) := by
    rintro ⟨hhead, hlong⟩
    by_cases hpos : 0 < o.toNat
    · exact Text.head?_toDigits_ne_zero (by decide) hpos hhead
    · rw [octetChars, Nat.eq_zero_of_not_pos hpos] at hlong
      exact absurd hlong (by decide)
  have hvalue : numeral 10 (octetChars o) = o.toNat := numeral_toDigits (by decide) (by decide) _
  simp only [readOctet, takeWhile_append_of_stops (fun _ => isDecimal_of_mem_octetChars) h,
    dropWhile_append_of_stops (fun _ => isDecimal_of_mem_octetChars) h, if_neg hempty,
    if_neg hzero, hvalue, if_pos hlt, UInt8.ofNat_toNat]

theorem expect_cons (c : Char) (rest : List Char) : expect c (c :: rest) = some rest := by
  simp [expect]

theorem readOctets_octetsChars (o : Octets) {rest : List Char} (h : Stops isDecimal rest) :
    readOctets (octetsChars o ++ rest) = some (o, rest) := by
  have hdot : ∀ s, Stops isDecimal ('.' :: s) := fun _ => .cons (by decide)
  simp only [octetsChars, List.append_assoc, List.cons_append, List.nil_append, readOctets,
    readOctet_octetChars _ (hdot _), readOctet_octetChars _ h, expect_cons, Option.bind_eq_bind,
    Option.bind_some, Option.pure_def]

theorem readOctets_eq_none_of_stops {s : List Char} (h : Stops isDecimal s) :
    readOctets s = none := by
  have hnone : readOctet s = none := by
    cases s with
    | nil => rfl
    | cons c s => simp [readOctet, h c rfl]
  rw [readOctets, hnone]
  rfl

/-- Behind an octet stands what follows the digits. -/
theorem eq_dropWhile_of_readOctet {s rest : List Char} {o : UInt8}
    (h : readOctet s = some (o, rest)) : rest = s.dropWhile isDecimal := by
  simp only [readOctet] at h
  split at h
  · cases h
  · split at h
    · cases h
    · split at h
      · cases h
        rfl
      · cases h

theorem expect_eq_none_of_not_mem {c : Char} {s : List Char} (h : c ∉ s) : expect c s = none := by
  cases s with
  | nil => rfl
  | cons c' s =>
    have hc : c' ≠ c := fun heq => h (heq ▸ List.mem_cons_self)
    simp [expect, hc]

/-- A text without a point writes no octets. -/
theorem readOctets_eq_none_of_not_mem {s : List Char} (h : '.' ∉ s) : readOctets s = none := by
  cases hfirst : readOctet s with
  | none =>
    rw [readOctets, hfirst]
    rfl
  | some found =>
    obtain ⟨o, rest⟩ := found
    obtain rfl := eq_dropWhile_of_readOctet hfirst
    have hdot : '.' ∉ s.dropWhile isDecimal := fun hmem => h (List.dropWhile_subset _ hmem)
    simp only [readOctets, hfirst, expect_eq_none_of_not_mem hdot, Option.bind_eq_bind,
      Option.bind_some, Option.bind_none]

-- ---------------------------------------------------------------------------
-- Groups
-- ---------------------------------------------------------------------------

theorem isHexadecimal_of_mem_groupChars {g : UInt16} {c : Char} (h : c ∈ groupChars g) :
    isHexadecimal c :=
  isHexadecimal_of_mem_toDigits (by decide) (by decide) h

theorem readGroup_groupChars (g : UInt16) {rest : List Char} (h : Stops isHexadecimal rest) :
    readGroup (groupChars g ++ rest) = some (g, rest) := by
  have hempty : ¬ (groupChars g = [] ∨ 4 < (groupChars g).length) :=
    not_empty_or_long_toDigits (by decide) (by decide) g.toNat_lt
  have hvalue : numeral 16 (groupChars g) = g.toNat := numeral_toDigits (by decide) (by decide) _
  simp only [readGroup, takeWhile_append_of_stops (fun _ => isHexadecimal_of_mem_groupChars) h,
    dropWhile_append_of_stops (fun _ => isHexadecimal_of_mem_groupChars) h, if_neg hempty,
    hvalue, UInt16.ofNat_toNat]

theorem readGroup_eq_none_of_stops {s : List Char} (h : Stops isHexadecimal s) :
    readGroup s = none := by
  cases s with
  | nil => rfl
  | cons c s => simp [readGroup, h c rfl]

/-- The characters of groups behind another one. -/
def followingChars (groups : List UInt16) : List Char := groups.flatMap (':' :: groupChars ·)

theorem groupsChars_cons (g : UInt16) (groups : List UInt16) :
    groupsChars (g :: groups) = groupChars g ++ followingChars groups := by
  induction groups generalizing g with
  | nil => simp [groupsChars, followingChars]
  | cons g' groups ih =>
    have hstep : groupsChars (g :: g' :: groups) =
        groupChars g ++ ':' :: groupsChars (g' :: groups) := by
      simp [groupsChars, List.intercalate]
    rw [hstep, ih]
    simp [followingChars]

theorem dot_not_mem_groupChars (g : UInt16) : '.' ∉ groupChars g := by
  intro h
  exact absurd (isHexadecimal_of_mem_groupChars h) (by decide)

theorem dot_not_mem_followingChars (groups : List UInt16) : '.' ∉ followingChars groups := by
  intro h
  obtain ⟨g, -, hmem⟩ := List.mem_flatMap.1 h
  cases List.mem_cons.1 hmem with
  | inl heq => exact absurd heq (by decide)
  | inr hmem => exact dot_not_mem_groupChars g hmem

theorem dot_not_mem_groupsChars (groups : List UInt16) : '.' ∉ groupsChars groups := by
  cases groups with
  | nil => exact List.not_mem_nil
  | cons g groups =>
    rw [groupsChars_cons, List.mem_append, not_or]
    exact ⟨dot_not_mem_groupChars g, dot_not_mem_followingChars groups⟩

/-- What may stand behind the groups of one side: nothing, or `::`. -/
def EndsGroups (rest : List Char) : Prop := rest = [] ∨ ∃ s, rest = ':' :: ':' :: s

theorem EndsGroups.stops {p : Char → Bool} {rest : List Char} (h : EndsGroups rest)
    (hp : p ':' = false) : Stops p rest := by
  obtain rfl | ⟨s, rfl⟩ := h
  · exact .nil
  · exact .cons hp

theorem stops_followingChars (groups : List UInt16) {rest : List Char} (h : EndsGroups rest) :
    Stops isHexadecimal (followingChars groups ++ rest) := by
  cases groups with
  | nil => exact h.stops (by decide)
  | cons g groups => exact .cons (by decide)

theorem readOctets_groupChars_eq_none (g : UInt16) (groups : List UInt16) {rest : List Char}
    (hdot : '.' ∉ rest) : readOctets (groupChars g ++ (followingChars groups ++ rest)) = none := by
  refine readOctets_eq_none_of_not_mem ?_
  simp only [List.mem_append, not_or]
  exact ⟨dot_not_mem_groupChars g, dot_not_mem_followingChars groups, hdot⟩

/-- Where the groups end, no more are read. -/
theorem readGroups_of_endsGroups (limit : Nat) (isFirst : Bool) {rest : List Char}
    (h : EndsGroups rest) : readGroups limit isFirst rest = ⟨[], false, rest⟩ := by
  cases limit with
  | zero => rfl
  | succ limit =>
    cases hstart : readSeparator isFirst rest with
    | none => simp only [readGroups, hstart]
    | some start =>
      have hstops : ∀ p : Char → Bool, p ':' = false → Stops p start := by
        intro p hp
        cases isFirst with
        | true =>
          obtain rfl : rest = start := Option.some.inj hstart
          exact h.stops hp
        | false =>
          obtain rfl | ⟨s, rfl⟩ := h
          · cases hstart
          · obtain rfl : ':' :: s = start := Option.some.inj hstart
            exact .cons hp
      simp only [readGroups, hstart, readOctets_eq_none_of_stops (hstops _ (by decide)), ite_self,
        readGroup_eq_none_of_stops (hstops _ (by decide))]

/-- A group ahead is read, and then those behind it. -/
theorem readGroups_group {limit : Nat} {isFirst : Bool} {s after : List Char} {g : UInt16}
    (hstart : readSeparator isFirst s = some (groupChars g ++ after))
    (hoctets : readOctets (groupChars g ++ after) = none) (hafter : Stops isHexadecimal after) :
    readGroups (limit + 1) isFirst s =
      ⟨g :: (readGroups limit false after).groups, (readGroups limit false after).dotted,
        (readGroups limit false after).rest⟩ := by
  simp only [readGroups, hstart, hoctets, ite_self, readGroup_groupChars g hafter]

/-- The groups behind another one are read up to where they end. -/
theorem readGroups_followingChars {groups : List UInt16} {limit : Nat} {rest : List Char}
    (hlimit : groups.length ≤ limit) (hrest : EndsGroups rest) (hdot : '.' ∉ rest) :
    readGroups limit false (followingChars groups ++ rest) = ⟨groups, false, rest⟩ := by
  induction groups generalizing limit with
  | nil => exact readGroups_of_endsGroups limit false hrest
  | cons g groups ih =>
    cases limit with
    | zero => cases hlimit
    | succ limit =>
      have hstart : readSeparator false (followingChars (g :: groups) ++ rest) =
          some (groupChars g ++ (followingChars groups ++ rest)) := by
        simp [readSeparator, followingChars, expect_cons]
      rw [readGroups_group hstart (readOctets_groupChars_eq_none g groups hdot)
        (stops_followingChars groups hrest), ih (Nat.le_of_succ_le_succ hlimit)]

/-- The groups of one side are read up to where they end. -/
theorem readGroups_groupsChars {groups : List UInt16} {limit : Nat} {rest : List Char}
    (hlimit : groups.length ≤ limit) (hrest : EndsGroups rest) (hdot : '.' ∉ rest) :
    readGroups limit true (groupsChars groups ++ rest) = ⟨groups, false, rest⟩ := by
  cases groups with
  | nil => exact readGroups_of_endsGroups limit true hrest
  | cons g groups =>
    cases limit with
    | zero => cases hlimit
    | succ limit =>
      have hstart : readSeparator true (groupsChars (g :: groups) ++ rest) =
          some (groupChars g ++ (followingChars groups ++ rest)) := by
        simp [readSeparator, groupsChars_cons]
      rw [readGroups_group hstart (readOctets_groupChars_eq_none g groups hdot)
        (stops_followingChars groups hrest),
        readGroups_followingChars (Nat.le_of_succ_le_succ hlimit) hrest hdot]

theorem readGroups_all {groups : List UInt16} {limit : Nat} (hlimit : groups.length ≤ limit) :
    readGroups limit true (groupsChars groups) = ⟨groups, false, []⟩ := by
  simpa using readGroups_groupsChars hlimit (.inl rfl) List.not_mem_nil

-- ---------------------------------------------------------------------------
-- Zeros left out
-- ---------------------------------------------------------------------------

theorem eq_replicate_append_of_le_zeroRun {groups : List UInt16} {n : Nat}
    (h : n ≤ zeroRun groups) : groups = List.replicate n 0 ++ groups.drop n := by
  induction n generalizing groups with
  | zero => rfl
  | succ n ih =>
    cases groups with
    | nil => cases h
    | cons g groups =>
      by_cases hg : g = 0
      · subst hg
        have hle : n ≤ zeroRun groups := by
          simpa [zeroRun] using h
        rw [List.replicate_succ, List.cons_append, List.drop_succ_cons, ← ih hle]
      · simp [zeroRun, hg] at h

/-- At the place of the longest run of zeros there are that many zeros. -/
theorem longestZeroRun_le (groups : List UInt16) :
    (longestZeroRun groups).2 ≤ zeroRun (groups.drop (longestZeroRun groups).1) := by
  unfold longestZeroRun
  refine List.foldlRecOn (motive := fun best : Nat × Nat => best.2 ≤ zeroRun (groups.drop best.1))
    _ _ (Nat.zero_le _) fun best hbest start _ => ?_
  dsimp only
  split
  · exact Nat.le_refl _
  · exact hbest

/-- Zeros stand between what the printer writes before and behind `::`. -/
theorem eq_take_append_zeros (groups : List UInt16) :
    groups = groups.take (longestZeroRun groups).1 ++
      (List.replicate (longestZeroRun groups).2 0 ++
        groups.drop ((longestZeroRun groups).1 + (longestZeroRun groups).2)) := by
  rw [← List.drop_drop, ← eq_replicate_append_of_le_zeroRun (longestZeroRun_le groups),
    List.take_append_drop]

-- ---------------------------------------------------------------------------
-- Addresses
-- ---------------------------------------------------------------------------

/-- The octets of a group put together again. -/
theorem shiftLeft_or_toUInt8 (g : UInt16) :
    (g >>> 8).toUInt8.toUInt16 <<< 8 ||| g.toUInt8.toUInt16 = g := by
  have hlt : g.toNat < 2 ^ 16 := g.toNat_lt
  have hlow : g.toNat % 2 ^ 8 < 2 ^ 8 := Nat.mod_lt _ (by decide)
  have hhigh : g.toNat / 2 ^ 8 % 2 ^ 8 * 2 ^ 8 % 2 ^ 16 = 2 ^ 8 * (g.toNat / 2 ^ 8) := by omega
  apply UInt16.toNat_inj.1
  simp only [UInt16.toNat_or, UInt16.toNat_shiftLeft, UInt8.toNat_toUInt16, UInt16.toNat_toUInt8,
    UInt16.toNat_shiftRight, Nat.shiftLeft_eq, Nat.shiftRight_eq_div_pow]
  show g.toNat / 2 ^ 8 % 2 ^ 8 * 2 ^ 8 % 2 ^ 16 ||| g.toNat % 2 ^ 8 = g.toNat
  rw [hhigh, ← Nat.two_pow_add_eq_or_of_lt hlow]
  exact Nat.div_add_mod _ _

theorem mapped?_eq_some {groups : List UInt16} {o : Octets} (h : mapped? groups = some o) :
    groups = [0, 0, 0, 0, 0, 0xFFFF] ++ o.groups := by
  unfold mapped? at h
  split at h
  · next high low =>
    cases h
    rw [Octets.groups, Octets.ofGroups, shiftLeft_or_toUInt8, shiftLeft_or_toUInt8]
    rfl
  · cases h

theorem ofGroups?_groups {groups : List UInt16} (eight : groups.length = 8) :
    ofGroups? groups = some (.v6 groups eight) := by
  simp [ofGroups?, eight]

theorem dot_not_mem_colonForm (groups : List UInt16) : '.' ∉ colonForm groups := by
  unfold colonForm
  split
  split
  · simp [dot_not_mem_groupsChars]
  · exact dot_not_mem_groupsChars groups

/-- Groups around `::` are read with the zeros left out there. -/
theorem readColonForm_compressed {before behind : List UInt16} {n : Nat} (hn : 0 < n)
    (eight : (before ++ (List.replicate n 0 ++ behind)).length = 8) :
    readColonForm (groupsChars before ++ ':' :: ':' :: groupsChars behind) =
      some (.v6 _ eight, []) := by
  have hlength : before.length + (n + behind.length) = 8 := by simpa using eight
  have hbefore : readGroups 8 true (groupsChars before ++ ':' :: ':' :: groupsChars behind) =
      ⟨before, false, ':' :: ':' :: groupsChars behind⟩ :=
    readGroups_groupsChars (by omega) (.inr ⟨_, rfl⟩)
      (by simpa using dot_not_mem_groupsChars behind)
  have hbehind : readGroups (7 - before.length) true (groupsChars behind) = ⟨behind, false, []⟩ :=
    readGroups_all (by omega)
  have hzeros : 8 - before.length - behind.length = n := by omega
  have hfew : before.length ≠ 8 := by omega
  simp only [readColonForm, hbefore, if_neg hfew, Bool.false_eq_true, if_false, expect_cons,
    Option.bind_eq_bind, Option.bind_some, hbehind, hzeros, List.append_assoc,
    ofGroups?_groups eight, Option.pure_def]

theorem readColonForm_colonForm {groups : List UInt16} (eight : groups.length = 8) :
    readColonForm (colonForm groups) = some (.v6 groups eight, []) := by
  have hzeros := eq_take_append_zeros groups
  cases hrun : longestZeroRun groups with
  | mk start length =>
    rw [hrun] at hzeros
    simp only [colonForm, hrun]
    split
    · next hlong =>
      have hread := readColonForm_compressed (n := length) (by omega) (hzeros ▸ eight)
      simp only [← hzeros] at hread
      simpa using hread
    · have hread := readGroups_all (Nat.le_of_eq eight)
      simp only [readColonForm, hread, if_pos eight, ofGroups?_groups eight]
      rfl

/-- Behind `::` the mark of a version 4 address and its octets are read as one side. -/
theorem readGroups_mapped (o : Octets) :
    readGroups 7 true ("ffff:".toList ++ octetsChars o) = ⟨0xFFFF :: o.groups, true, []⟩ := by
  have hmark : groupChars 0xFFFF = "ffff".toList := by decide
  have hstart : readSeparator true ("ffff:".toList ++ octetsChars o) =
      some (groupChars 0xFFFF ++ ':' :: octetsChars o) := by
    rw [hmark]
    rfl
  have hoctets : readOctets (groupChars 0xFFFF ++ ':' :: octetsChars o) = none := by
    rw [hmark]
    exact readOctets_eq_none_of_stops (.cons (by decide))
  have hdotted : readGroups 6 false (':' :: octetsChars o) = ⟨o.groups, true, []⟩ := by
    have hread : readOctets (octetsChars o) = some (o, []) := by
      simpa using readOctets_octetsChars o .nil
    simp [readGroups, readSeparator, expect_cons, hread]
  rw [readGroups_group hstart hoctets (.cons (by decide)), hdotted]

theorem readColonForm_mapped (o : Octets)
    (eight : ([0, 0, 0, 0, 0, 0xFFFF] ++ o.groups).length = 8) :
    readColonForm ("::ffff:".toList ++ octetsChars o) = some (.v6 _ eight, []) := by
  have hbefore : readGroups 8 true ("::ffff:".toList ++ octetsChars o) =
      ⟨[], false, ':' :: ':' :: ("ffff:".toList ++ octetsChars o)⟩ :=
    readGroups_of_endsGroups 8 true (.inr ⟨_, rfl⟩)
  have hbehind := readGroups_mapped o
  simp only [readColonForm, hbefore, List.length_nil, Bool.false_eq_true, if_false, expect_cons,
    Option.bind_eq_bind, Option.bind_some, Nat.sub_zero, hbehind]
  rfl

theorem read_chars (a : Address) : read a.chars = some (a, []) := by
  cases a with
  | v4 o =>
    have hread : readOctets (octetsChars o) = some (o, []) := by
      simpa using readOctets_octetsChars o .nil
    simp only [read, chars, hread]
  | v6 groups eight =>
    cases hmapped : mapped? groups with
    | some o =>
      obtain rfl := mapped?_eq_some hmapped
      have hoctets : readOctets ("::ffff:".toList ++ octetsChars o) = none :=
        readOctets_eq_none_of_stops (.cons (by decide))
      simp only [read, chars, hmapped, hoctets, readColonForm_mapped o eight]
    | none =>
      have hoctets : readOctets (colonForm groups) = none :=
        readOctets_eq_none_of_not_mem (dot_not_mem_colonForm groups)
      simp only [read, chars, hmapped, hoctets, readColonForm_colonForm eight]

/-- Every address is read back from its text. -/
theorem ofText?_text (a : Address) : ofText? a.text = some a := by
  simp only [ofText?, text, String.toList_ofList, read_chars]

end Sandbox.Address
