-- SUMMARY: Integers as JSON documents, and the compact texts of integers, lists and records.
import Sandbox.Proofs.Integer
import Sandbox.Proofs.Json.Text

/-!
# Compact texts

An integer is written as its decimal text and read back from it, at the limits
of its range too. The text of a list or of a record is put together from the
texts of its parts, with nothing but commas and colons between them.
-/

namespace Sandbox.Json

open Sandbox.Text

/-! ## Digits -/

theorem map_char_filterMap_ofChar? {cs : List Char} (h : ∀ c ∈ cs, c.isDigit) :
    (cs.filterMap Digit.ofChar?).map Digit.char = cs := by
  induction cs with
  | nil => rfl
  | cons c cs ih =>
    obtain ⟨hc, hcs⟩ := List.forall_mem_cons.1 h
    obtain ⟨d, hd, -⟩ := Digit.ofChar?_of_isDigit hc
    rw [List.filterMap_cons_some hd, List.map_cons, ih hcs, Digit.char_of_ofChar? hd]

theorem map_char_digitsOf (n : Nat) : (digitsOf n).map Digit.char = Nat.toDigits 10 n :=
  map_char_filterMap_ofChar? fun _ hc => Nat.isDigit_of_mem_toDigits (by decide) (by decide) hc

theorem foldl_digits (ds : List Digit) (start : Nat) :
    ds.foldl (fun value d => value * 10 + d.val) start =
      Nat.ofDigitChars 10 (ds.map Digit.char) start := by
  have hvalue : ∀ d : Digit, d.char.toNat - '0'.toNat = d.val := by decide
  induction ds generalizing start with
  | nil => rfl
  | cons d ds ih =>
    rw [List.foldl_cons, ih, List.map_cons, Nat.ofDigitChars_cons, hvalue, Nat.mul_comm]

theorem magnitude_digitsOf (n : Nat) : magnitude (digitsOf n) = n := by
  rw [magnitude, foldl_digits, map_char_digitsOf, Nat.ofDigitChars_ten_toDigits]

/-- The digits of a number may stand before a point as they are. -/
theorem Whole.digits_ofNat (n : Nat) : (Whole.ofNat n).digits = digitsOf n := by
  have hchars := map_char_digitsOf n
  cases hdigits : digitsOf n with
  | nil =>
    rw [hdigits] at hchars
    exact absurd hchars.symm Nat.toDigits_ne_nil
  | cons lead rest =>
    rw [hdigits, List.map_cons] at hchars
    have hlead : lead = .zero → rest = [] := by
      rintro rfl
      have hzero : n = 0 := by
        refine Nat.eq_zero_of_not_pos fun hpos => ?_
        have hhead : (Nat.toDigits 10 n).head? ≠ some '0' :=
          head?_toDigits_ne_zero (by decide) hpos
        rw [← hchars] at hhead
        exact hhead rfl
      rw [hzero] at hchars
      exact List.map_eq_nil_iff.1 (List.cons.inj hchars).2
    rw [Whole.ofNat, hdigits, Whole.ofDigits?, dif_pos hlead]
    rfl

/-! ## Integers -/

theorem Number.integer?_ofInt (i : Int) : (Number.ofInt i).integer? = some i := by
  have hdigits : magnitude (Whole.ofNat i.natAbs).digits = i.natAbs := by
    rw [Whole.digits_ofNat, magnitude_digitsOf]
  simp only [integer?, ofInt, hdigits, Option.isSome_none, Bool.false_eq_true, or_self, if_false,
    decide_eq_true_eq]
  split
  · next hneg =>
    rw [if_neg (by omega), Option.some.injEq]
    omega
  · next hnonneg =>
    rw [Option.some.injEq]
    omega

theorem Number.render_ofInt (i : Int64) : (Number.ofInt i.toInt).render = symbols (toString i) := by
  have hdigits : renderDigits (Whole.ofNat i.toInt.natAbs).digits =
      (Nat.toDigits 10 i.toInt.natAbs).map some := by
    rw [Whole.digits_ofNat, ← map_char_digitsOf, List.map_map]
    rfl
  simp only [render, ofInt, hdigits, symbols, toList_toString, Option.map_none, Option.getD_none,
    List.append_nil, decide_eq_true_eq]
  by_cases hneg : i.toInt < 0
  · rw [if_pos hneg, if_neg (by omega), show (-i.toInt).toNat = i.toInt.natAbs by omega]
    rfl
  · rw [if_neg hneg, if_pos (by omega), show i.toInt.toNat = i.toInt.natAbs by omega]
    rfl

/-- Every integer is read back from the document that writes it. -/
theorem int64?_ofInt (i : Int64) : (Document.ofInt i.toInt).int64? = some i := by
  have hrange : Int64.minValue.toInt ≤ i.toInt ∧ i.toInt ≤ Int64.maxValue.toInt :=
    ⟨i.minValue_le_toInt, i.toInt_le⟩
  simp only [Document.ofInt, Document.int64?, Number.integer?_ofInt, Option.bind_eq_bind,
    Option.bind_some, int64?, if_pos hrange, Int64.ofInt_toInt]

theorem none_not_mem_ofInt (i : Int64) : none ∉ (Document.ofInt i.toInt).render := by
  show none ∉ (Number.ofInt i.toInt).render
  rw [Number.render_ofInt]
  simp [symbols]

/-! ## Texts -/

/-- The characters among symbols. -/
def characters (s : List Symbol) : List Char := s.filterMap id

@[simp] theorem characters_cons (c : Char) (s : List Symbol) :
    characters (some c :: s) = c :: characters s := rfl

@[simp] theorem characters_append (s s' : List Symbol) :
    characters (s ++ s') = characters s ++ characters s' := List.filterMap_append

theorem characters_symbols (s : String) : characters (symbols s) = s.toList := by
  rw [characters, symbols, List.filterMap_map]
  exact List.filterMap_some

theorem characters_render (d : Document) : characters d.render = d.text.toList := by
  rw [Document.text_eq, String.toList_ofList, characters]

theorem characters_pieces (name : String) :
    characters (Pieces.ofString name).render = (Document.ofString name).text.toList :=
  characters_render (Document.ofString name)

theorem text_ofInt (i : Int64) : (Document.ofInt i.toInt).text = toString i := by
  have hrender : (Document.ofInt i.toInt).render = symbols (toString i) := Number.render_ofInt i
  refine String.toList_inj.1 ?_
  rw [← characters_render, hrender, characters_symbols]

theorem Items.characters_ofList (ds : List Document) :
    characters (Items.ofList ds).render = ds.flatMap (fun d => ',' :: d.text.toList) ++ [']'] := by
  induction ds with
  | nil => rfl
  | cons d ds ih =>
    simp only [Items.ofList, Items.render, Blanks.render, characters_cons, characters_append,
      characters_render, ih, List.flatMap_cons]
    simp [characters]

theorem text_ofList (ds : List Document) :
    (Document.ofList ds).text = "[" ++ ",".intercalate (ds.map Document.text) ++ "]" := by
  refine String.toList_inj.1 ?_
  cases ds with
  | nil => rfl
  | cons d ds =>
    rw [← characters_render, List.map_cons, String.toList_append, String.toList_append,
      toList_intercalate_cons]
    simp only [Document.ofList, Document.render, Blanks.render, characters_cons, characters_append,
      characters_render, Items.characters_ofList]
    simp [characters, List.flatMap_map]

theorem Members.characters_ofList (members : List (String × Document)) :
    characters (Members.ofList members).render =
      members.flatMap (fun member =>
        ',' :: ((Document.ofString member.1).text.toList ++ ':' :: member.2.text.toList)) ++
        ['}'] := by
  induction members with
  | nil => rfl
  | cons member members ih =>
    simp only [Members.ofList, Members.render, Blanks.render, characters_cons, characters_append,
      characters_render, characters_pieces, ih, List.flatMap_cons]
    simp [characters]

theorem text_ofFields (members : List (String × Document)) :
    (Document.ofFields members).text =
      objectText (members.map fun (key, d) => ((Document.ofString key).text, d.text)) := by
  refine String.toList_inj.1 ?_
  cases members with
  | nil => rfl
  | cons member members =>
    rw [← characters_render, objectText, List.map_cons, List.map_cons, String.toList_append,
      String.toList_append, toList_intercalate_cons]
    simp only [Document.ofFields, Document.render, Blanks.render, characters_cons,
      characters_append, characters_render, characters_pieces, Members.characters_ofList]
    simp [characters, List.flatMap_map]

end Sandbox.Json
