-- SUMMARY: What laid-out JSON documents mean, and that their text has no ill-formed part.
import Sandbox.Json.Layout
import Sandbox.Proofs.Checks
import Sandbox.Proofs.Json.Reader

/-!
# Laid-out documents

A laid-out string stands for the string it was made of, and likewise lists and
records. The text of a document without ill-formed parts writes that document.
-/

namespace Sandbox.Json

open Sandbox.Text

-- ---------------------------------------------------------------------------
-- Strings
-- ---------------------------------------------------------------------------

theorem hexDigit_value (n : Fin 16) : (hexDigit n).value = n.val := by
  revert n; decide

/-- The digits of a control character write its code point. -/
theorem chars?_controlPiece {c : Char} (hc : c.toNat < 0x20) (ps : Pieces) :
    Pieces.chars? (controlPiece c :: ps) = (Pieces.chars? ps).map (c :: ·) := by
  have hvalue : unitValue (hexDigit 0) (hexDigit 0) (hexDigit (.ofNat 16 (c.toNat / 16)))
      (hexDigit (.ofNat 16 c.toNat)) = c.toNat := by
    simp only [unitValue, hexDigit_value, Fin.val_ofNat]
    omega
  have hhigh : isHighSurrogate c.toNat = false := by
    simp [isHighSurrogate]
    omega
  have hlow : isLowSurrogate c.toNat = false := by
    simp [isLowSurrogate]
    omega
  rw [controlPiece, Pieces.chars?.eq_def]
  simp only [hvalue, hhigh, hlow, Bool.false_eq_true, if_false, Char.ofNat_toNat]
  cases Pieces.chars? ps <;> rfl

theorem isPlain_iff {c : Char} : isPlain c ↔ 0x20 ≤ c.toNat ∧ c ≠ '"' ∧ c ≠ '\\' := by
  simp [isPlain, and_assoc]

theorem pieceOfChar_of_control {c : Char} (hc : c.toNat < 0x20) :
    (∃ e, pieceOfChar c = .escape e ∧ e.char = c) ∨ pieceOfChar c = controlPiece c := by
  have hall : ∀ n < 0x20, (∃ e ∈ [Escape.backspace, .formFeed, .lineFeed, .carriageReturn, .tab],
      pieceOfChar (.ofNat n) = .escape e ∧ e.char = .ofNat n) ∨
        pieceOfChar (.ofNat n) = controlPiece (.ofNat n) := by decide
  have hcontrol := hall c.toNat hc
  rw [Char.ofNat_toNat] at hcontrol
  obtain ⟨e, -, he⟩ | hnumber := hcontrol
  · exact .inl ⟨e, he⟩
  · exact .inr hnumber

/-- A character is written as it is, by a short escape, or by number if it is a control. -/
theorem pieceOfChar_cases (c : Char) :
    (∃ hplain, pieceOfChar c = .plain c hplain) ∨
      (∃ e, pieceOfChar c = .escape e ∧ e.char = c) ∨
        c.toNat < 0x20 ∧ pieceOfChar c = controlPiece c := by
  by_cases hplain : isPlain c
  · exact .inl ⟨hplain, dif_pos hplain⟩
  · rw [isPlain_iff] at hplain
    by_cases hquote : c = '"'
    · subst hquote
      exact .inr (.inl ⟨.quote, rfl, rfl⟩)
    · by_cases hbackslash : c = '\\'
      · subst hbackslash
        exact .inr (.inl ⟨.backslash, rfl, rfl⟩)
      · have hc : c.toNat < 0x20 :=
          Nat.not_le.1 fun hlarge => hplain ⟨hlarge, hquote, hbackslash⟩
        exact .inr ((pieceOfChar_of_control hc).imp_right fun h => ⟨hc, h⟩)

/-- The piece of a character stands for that character. -/
theorem chars?_pieceOfChar (c : Char) (ps : Pieces) :
    Pieces.chars? (pieceOfChar c :: ps) = (Pieces.chars? ps).map (c :: ·) := by
  obtain ⟨hplain, hpiece⟩ | ⟨e, hpiece, rfl⟩ | ⟨hcontrol, hpiece⟩ := pieceOfChar_cases c
  · rw [hpiece, Pieces.chars?]
    cases Pieces.chars? ps <;> rfl
  · rw [hpiece, Pieces.chars?]
    cases Pieces.chars? ps <;> rfl
  · rw [hpiece, chars?_controlPiece hcontrol]

theorem content?_ofString (s : String) : (Pieces.ofString s).content? = some s := by
  have hchars : ∀ cs : List Char, Pieces.chars? (cs.map pieceOfChar) = some cs := by
    intro cs
    induction cs with
    | nil => rfl
    | cons c cs ih =>
      rw [List.map_cons, chars?_pieceOfChar, ih]
      rfl
  rw [Pieces.content?, Pieces.ofString, hchars]
  simp

theorem string?_ofString (s : String) : (Document.ofString s).string? = some s :=
  content?_ofString s

-- ---------------------------------------------------------------------------
-- Arrays and objects
-- ---------------------------------------------------------------------------

theorem Items.values_ofList (ds : List Document) : (Items.ofList ds).values = ds := by
  induction ds with
  | nil => rfl
  | cons d ds ih => rw [Items.ofList, Items.values, ih]

theorem items?_ofList (ds : List Document) : (Document.ofList ds).items? = some ds := by
  cases ds with
  | nil => rfl
  | cons d ds => rw [Document.ofList, Document.items?, Items.values_ofList]

/-- The list of what writes each value reads as the values. -/
theorem list?_ofList {α : Type} {f : Document → Option α} {g : α → Document}
    (h : ∀ x, f (g x) = some x) (xs : List α) :
    (Document.ofList (xs.map g)).list? f = some xs := by
  simp only [Document.list?, items?_ofList, Option.bind_eq_bind, Option.bind_some]
  refine Checks.mapM_option_eq_some.2 (List.forall₂_map_left_iff.2 (List.forall₂_same.2 ?_))
  exact fun x _ => h x

theorem Members.pairs_ofList (members : List (String × Document)) :
    (Members.ofList members).pairs = members.map fun (key, d) => (.ofString key, d) := by
  induction members with
  | nil => rfl
  | cons member members ih => rw [Members.ofList, Members.pairs, ih, List.map_cons]

theorem members?_ofFields (members : List (String × Document)) :
    (Document.ofFields members).members? =
      some (members.map fun (key, d) => (.ofString key, d)) := by
  cases members with
  | nil => rfl
  | cons member members => rw [Document.ofFields, Document.members?, Members.pairs_ofList]; rfl

/-- The object of what writes each key and each value reads as the keys with their values. -/
theorem pairs?_ofFields {κ α : Type} {readKey : Pieces → Option κ} {key : κ → String}
    {f : Document → Option α} {g : α → Document} (hkey : ∀ k, readKey (.ofString (key k)) = some k)
    (h : ∀ x, f (g x) = some x) (pairs : List (κ × α)) :
    (Document.ofFields (pairs.map fun (k, x) => (key k, g x))).pairs? readKey f = some pairs := by
  simp only [Document.pairs?, members?_ofFields, Option.bind_eq_bind, Option.bind_some,
    List.map_map]
  refine Checks.mapM_option_eq_some.2 (List.forall₂_map_left_iff.2 (List.forall₂_same.2 ?_))
  rintro ⟨k, x⟩ -
  simp [hkey k, h x]

theorem items?_ofFields (members : List (String × Document)) :
    (Document.ofFields members).items? = none := by
  cases members <;> rfl

/-- A record with just the wanted fields reads as these fields. -/
theorem fields?_ofFields {names : List String} {members : List (String × Document)}
    (hnames : members.map (·.1) = names) (h : names.Nodup) :
    (Document.ofFields members).fields? names = some members := by
  subst hnames
  have hpairs : (Document.ofFields members).pairs? Pieces.content? some = some members := by
    simpa using pairs?_ofFields content?_ofString (g := fun d => d) (fun _ => rfl) members
  have hknown : members.filter (·.1 ∈ members.map (·.1)) = members := by
    simp only [List.filter_eq_self, decide_eq_true_eq]
    intro member hmember
    exact List.mem_map_of_mem hmember
  simp only [Document.fields?, hpairs, Option.bind_eq_bind, Option.bind_some, hknown, if_pos h]

-- ---------------------------------------------------------------------------
-- Texts
-- ---------------------------------------------------------------------------

theorem symbols_ofList_filterMap {s : List Symbol} (h : none ∉ s) :
    symbols (.ofList (s.filterMap id)) = s := by
  rw [symbols, String.toList_ofList]
  induction s with
  | nil => rfl
  | cons symbol s ih =>
    cases symbol with
    | none => exact absurd List.mem_cons_self h
    | some c =>
      have hrest : none ∉ s := fun hmem => h (List.mem_cons_of_mem _ hmem)
      exact congrArg (some c :: ·) (ih hrest)

/-- The text of a document that has no ill-formed part writes that document. -/
theorem Document.writtenAs_text {d : Document} (h : none ∉ d.render) : d.WrittenAs d.text :=
  ⟨[], [], by simpa [Document.text_eq, Blanks.render] using symbols_ofList_filterMap h⟩

theorem none_not_mem_pieceOfChar (c : Char) : none ∉ (pieceOfChar c).render := by
  obtain ⟨hplain, hpiece⟩ | ⟨e, hpiece, -⟩ | ⟨-, hpiece⟩ := pieceOfChar_cases c
  all_goals simp [hpiece, Piece.render, controlPiece]

theorem none_not_mem_pieces (s : String) : none ∉ (Pieces.ofString s).render := by
  have hpieces : none ∉ (Pieces.ofString s).flatMap Piece.render := by
    intro h
    obtain ⟨p, hp, hmem⟩ := List.mem_flatMap.1 h
    obtain ⟨c, -, rfl⟩ := List.mem_map.1 hp
    exact none_not_mem_pieceOfChar c hmem
  simpa [Pieces.render] using hpieces

theorem none_not_mem_ofString (s : String) : none ∉ (Document.ofString s).render :=
  none_not_mem_pieces s

theorem Items.none_not_mem_ofList {ds : List Document} (h : ∀ d ∈ ds, none ∉ d.render) :
    none ∉ (Items.ofList ds).render := by
  induction ds with
  | nil => simp [Items.ofList, Items.render]
  | cons d ds ih =>
    obtain ⟨hd, hds⟩ := List.forall_mem_cons.1 h
    simpa [Items.ofList, Items.render, Blanks.render, hd] using ih hds

theorem none_not_mem_ofList {ds : List Document} (h : ∀ d ∈ ds, none ∉ d.render) :
    none ∉ (Document.ofList ds).render := by
  cases ds with
  | nil => simp [Document.ofList, Document.render, Blanks.render]
  | cons d ds =>
    obtain ⟨hd, hds⟩ := List.forall_mem_cons.1 h
    simpa [Document.ofList, Document.render, Blanks.render, hd] using Items.none_not_mem_ofList hds

theorem Members.none_not_mem_ofList {members : List (String × Document)}
    (h : ∀ member ∈ members, none ∉ member.2.render) : none ∉ (Members.ofList members).render := by
  induction members with
  | nil => simp [Members.ofList, Members.render]
  | cons member members ih =>
    obtain ⟨hd, hmembers⟩ := List.forall_mem_cons.1 h
    simpa [Members.ofList, Members.render, Blanks.render, none_not_mem_pieces, hd] using ih hmembers

theorem none_not_mem_ofFields {members : List (String × Document)}
    (h : ∀ member ∈ members, none ∉ member.2.render) :
    none ∉ (Document.ofFields members).render := by
  cases members with
  | nil => simp [Document.ofFields, Document.render, Blanks.render]
  | cons member members =>
    obtain ⟨hd, hmembers⟩ := List.forall_mem_cons.1 h
    simpa [Document.ofFields, Document.render, Blanks.render, none_not_mem_pieces, hd] using
      Members.none_not_mem_ofList hmembers

end Sandbox.Json
