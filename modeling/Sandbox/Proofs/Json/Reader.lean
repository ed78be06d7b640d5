-- SUMMARY: Every JSON document is read back from its text.
import Mathlib.Data.List.Basic
import Sandbox.Json.Reader

/-!
# Reading documents back

A part of a text is read back if what stands behind it cannot belong to it. For
blanks and strings that is settled by one character, a number must not be
followed by more of a number, and everything else closes itself.
-/

namespace Sandbox.Json

open Sandbox.Text

/-- If a character stands ahead, it has the property. -/
def Ahead (p : Char → Prop) (s : List Symbol) : Prop := ∀ c, s.head? = some (some c) → p c

namespace Ahead

variable {p q : Char → Prop}

theorem nil : Ahead p [] := by
  intro c hc
  cases hc

theorem cons {c : Char} {s : List Symbol} (h : p c) : Ahead p (some c :: s) := by
  rintro _ ⟨⟩
  exact h

theorem imp {s : List Symbol} (h : Ahead p s) (hpq : ∀ c, p c → q c) : Ahead q s :=
  fun c hc => hpq c (h c hc)

end Ahead

-- ---------------------------------------------------------------------------
-- Blanks and digits
-- ---------------------------------------------------------------------------

theorem Blank.ofChar?_char (b : Blank) : Blank.ofChar? b.char = some b := by
  cases b <;> rfl

abbrev NoBlank (c : Char) : Prop := Blank.ofChar? c = none

theorem readBlanks_of_ahead {s : List Symbol} (h : Ahead NoBlank s) : readBlanks s = ([], s) := by
  unfold readBlanks
  split
  · next c rest =>
    have hc : Blank.ofChar? c = none := h c rfl
    rw [hc]
  · rfl

theorem readBlanks_render (bs : Blanks) {rest : List Symbol} (h : Ahead NoBlank rest) :
    readBlanks (bs.render ++ rest) = (bs, rest) := by
  induction bs with
  | nil => exact readBlanks_of_ahead h
  | cons b bs ih =>
    show readBlanks (some b.char :: (Blanks.render bs ++ rest)) = _
    simp only [readBlanks, Blank.ofChar?_char, ih]

abbrev NoDigit (c : Char) : Prop := Digit.ofChar? c = none

theorem readDigits_of_ahead {s : List Symbol} (h : Ahead NoDigit s) : readDigits s = ([], s) := by
  unfold readDigits
  split
  · next c rest =>
    have hc : Digit.ofChar? c = none := h c rfl
    rw [hc]
  · rfl

theorem readDigits_render (ds : List Digit) {rest : List Symbol} (h : Ahead NoDigit rest) :
    readDigits (renderDigits ds ++ rest) = (ds, rest) := by
  induction ds with
  | nil => exact readDigits_of_ahead h
  | cons d ds ih =>
    show readDigits (some d.char :: (renderDigits ds ++ rest)) = _
    simp only [readDigits, Digit.ofChar?_char, ih]

theorem readSomeDigits_render (lead : Digit) (more : List Digit) {rest : List Symbol}
    (h : Ahead NoDigit rest) :
    readSomeDigits (renderDigits (lead :: more) ++ rest) = some (lead, more, rest) := by
  show readSomeDigits (some lead.char :: (renderDigits more ++ rest)) = _
  simp only [readSomeDigits, Digit.ofChar?_char, readDigits_render more h]
  rfl

-- ---------------------------------------------------------------------------
-- Numbers
-- ---------------------------------------------------------------------------

/-- The character cannot go on with a number. -/
abbrev NoNumber (c : Char) : Prop := NoDigit c ∧ c ≠ '.' ∧ c ≠ 'e' ∧ c ≠ 'E'

theorem digit_char_ne (d : Digit) {c : Char} (hc : NoDigit c) : d.char ≠ c := by
  rintro rfl
  rw [NoDigit, Digit.ofChar?_char] at hc
  cases hc

theorem digit_cons_ne (d : Digit) {c : Char} (hc : NoDigit c) {s s' : List Symbol} :
    some d.char :: s ≠ some c :: s' := by
  intro heq
  exact digit_char_ne d hc (Option.some.inj (List.cons.inj heq).1)

theorem readWhole_render (w : Whole) {rest : List Symbol} (h : Ahead NoDigit rest) :
    readWhole (renderDigits w.digits ++ rest) = some (w, rest) := by
  have hwhole : Whole.ofDigits? (w.lead :: w.rest) = some w := dif_pos w.noLeadingZero
  simp only [readWhole, Whole.digits, readSomeDigits_render w.lead w.rest h, Option.bind_eq_bind,
    Option.bind_some, hwhole, Option.pure_def]

theorem readFraction_of_ahead {s : List Symbol} (h : Ahead (· ≠ '.') s) :
    readFraction s = some (none, s) := by
  unfold readFraction
  split
  · exact absurd rfl (h '.' rfl)
  · rfl

theorem readFraction_render (f : Option Fraction) {rest : List Symbol}
    (h : Ahead (fun c => NoDigit c ∧ c ≠ '.') rest) :
    readFraction ((f.map Fraction.render).getD [] ++ rest) = some (f, rest) := by
  cases f with
  | none => exact readFraction_of_ahead (h.imp fun _ hc => hc.2)
  | some f =>
    show readFraction (some '.' :: (renderDigits (f.lead :: f.rest) ++ rest)) = _
    simp only [readFraction, readSomeDigits_render f.lead f.rest (h.imp fun _ hc => hc.1)]
    rfl

theorem readExponentSign_render (sign : ExponentSign) (lead : Digit) (s : List Symbol) :
    readExponentSign (sign.render ++ some lead.char :: s) = (sign, some lead.char :: s) := by
  cases sign with
  | implicit =>
    show readExponentSign (some lead.char :: s) = _
    unfold readExponentSign
    split
    · next heq => exact absurd heq (digit_cons_ne lead (by decide))
    · next heq => exact absurd heq (digit_cons_ne lead (by decide))
    · rfl
  | plus => rfl
  | minus => rfl

theorem readExponentAfter_render (e : Exponent) {rest : List Symbol} (h : Ahead NoDigit rest) :
    readExponentAfter e.upperCase (e.sign.render ++ (renderDigits e.digits ++ rest)) =
      some (some e, rest) := by
  have hsign : readExponentSign (e.sign.render ++ (renderDigits e.digits ++ rest)) =
      (e.sign, renderDigits e.digits ++ rest) := readExponentSign_render e.sign e.lead _
  simp only [readExponentAfter, hsign]
  simp only [Exponent.digits, readSomeDigits_render e.lead e.rest h]
  rfl

theorem readExponent_of_ahead {s : List Symbol} (h : Ahead (fun c => c ≠ 'e' ∧ c ≠ 'E') s) :
    readExponent s = some (none, s) := by
  unfold readExponent
  split
  · exact absurd rfl (h 'e' rfl).1
  · exact absurd rfl (h 'E' rfl).2
  · rfl

theorem readExponent_render (e : Option Exponent) {rest : List Symbol} (h : Ahead NoNumber rest) :
    readExponent ((e.map Exponent.render).getD [] ++ rest) = some (e, rest) := by
  cases e with
  | none => exact readExponent_of_ahead (h.imp fun _ hc => hc.2.2)
  | some e =>
    have hafter := readExponentAfter_render e (h.imp fun _ hc => hc.1)
    simp only [Option.map_some, Option.getD_some, Exponent.render, List.cons_append,
      List.append_assoc]
    cases hcase : e.upperCase <;> rw [hcase] at hafter <;> exact hafter

/-- An exponent or what stands behind the number, ahead of which digits end. -/
theorem ahead_exponent (e : Option Exponent) {rest : List Symbol} (h : Ahead NoNumber rest) :
    Ahead (fun c => NoDigit c ∧ c ≠ '.') ((e.map Exponent.render).getD [] ++ rest) := by
  cases e with
  | none => exact h.imp fun _ hc => ⟨hc.1, hc.2.1⟩
  | some e =>
    refine .cons ?_
    cases e.upperCase <;> decide

theorem ahead_fraction (f : Option Fraction) {s : List Symbol}
    (h : Ahead (fun c => NoDigit c ∧ c ≠ '.') s) :
    Ahead NoDigit ((f.map Fraction.render).getD [] ++ s) := by
  cases f with
  | none => exact h.imp fun _ hc => hc.1
  | some f => exact .cons (by decide)

theorem readSign_render (negative : Bool) (lead : Digit) (s : List Symbol) :
    readSign ((if negative then [some '-'] else []) ++ some lead.char :: s) =
      (negative, some lead.char :: s) := by
  cases negative with
  | true => rfl
  | false =>
    show readSign (some lead.char :: s) = _
    unfold readSign
    split
    · next heq => exact absurd heq (digit_cons_ne lead (by decide))
    · rfl

theorem readNumber_render (n : Number) {rest : List Symbol} (h : Ahead NoNumber rest) :
    readNumber (n.render ++ rest) = some (n, rest) := by
  have hexponent := ahead_exponent n.exponent h
  have hfraction := ahead_fraction n.fraction hexponent
  have hsign : ∀ s, readSign ((if n.negative then [some '-'] else []) ++
      (renderDigits n.whole.digits ++ s)) = (n.negative, renderDigits n.whole.digits ++ s) :=
    fun s => readSign_render n.negative n.whole.lead (renderDigits n.whole.rest ++ s)
  simp only [readNumber, Number.render, List.append_assoc, hsign,
    readWhole_render n.whole hfraction, readFraction_render n.fraction hexponent,
    readExponent_render n.exponent h, Option.bind_eq_bind, Option.bind_some, Option.pure_def]

-- ---------------------------------------------------------------------------
-- Strings
-- ---------------------------------------------------------------------------

theorem Escape.ofMark?_mark (e : Escape) : Escape.ofMark? e.mark = some e := by
  cases e <;> rfl

theorem hexDigit_ofChar?_val (d : HexDigit) : HexDigit.ofChar? d.val = some d :=
  dif_pos d.property

/-- The piece ahead is read, and then those behind it. -/
theorem readPieces_piece (p : Piece) (s : List Symbol) :
    readPieces (p.render ++ s) = (readPieces s).map fun (ps, rest) => (p :: ps, rest) := by
  cases p with
  | plain c hplain =>
    have hquote : c ≠ '"' := by
      rintro rfl
      revert hplain
      decide
    have hbackslash : c ≠ '\\' := by
      rintro rfl
      revert hplain
      decide
    show readPieces (some c :: s) = _
    rw [readPieces, dif_pos hplain]
    · cases readPieces s <;> rfl
    · exact hquote
    · exact fun _ _ _ _ _ _ => hbackslash
    · exact fun _ _ _ => hbackslash
  | illFormed =>
    show (readPieces s).bind _ = _
    cases readPieces s <;> rfl
  | escape e =>
    have hmark : e.mark ≠ 'u' := by
      cases e <;> decide
    show readPieces (some '\\' :: some e.mark :: s) = _
    rw [readPieces, Escape.ofMark?_mark]
    · cases readPieces s <;> rfl
    · exact fun _ _ _ _ _ _ => hmark
  | unit a b c d =>
    show readPieces (some '\\' :: some 'u' :: some a.val :: some b.val :: some c.val ::
      some d.val :: s) = _
    rw [readPieces, hexDigit_ofChar?_val, hexDigit_ofChar?_val, hexDigit_ofChar?_val,
      hexDigit_ofChar?_val]
    cases readPieces s <;> rfl

theorem readPieces_render (ps : Pieces) (rest : List Symbol) :
    readPieces (ps.flatMap Piece.render ++ some '"' :: rest) = some (ps, rest) := by
  induction ps with
  | nil => rfl
  | cons p ps ih => rw [List.flatMap_cons, List.append_assoc, readPieces_piece, ih]; rfl

theorem readString_render (ps : Pieces) (rest : List Symbol) :
    readString (ps.render ++ rest) = some (ps, rest) := by
  have hread := readPieces_render ps rest
  simpa [readString, Pieces.render] using hread

-- ---------------------------------------------------------------------------
-- Documents
-- ---------------------------------------------------------------------------

theorem expect_cons (c : Char) (rest : List Symbol) : expect c (some c :: rest) = some rest := by
  simp [expect]

theorem expect_of_ahead {c : Char} {s : List Symbol} (h : Ahead (· ≠ c) s) : expect c s = none := by
  unfold expect
  split
  · next c' rest => exact if_neg (h c' rfl)
  · rfl

/-- What a number starts with. -/
abbrev StartsNumber (c : Char) : Prop := c = '-' ∨ ∃ d : Digit, d.char = c

theorem Number.ahead_render (n : Number) (rest : List Symbol) :
    Ahead StartsNumber (n.render ++ rest) := by
  obtain ⟨negative, whole, fraction, exponent⟩ := n
  cases negative with
  | true => exact .cons (.inl rfl)
  | false => exact .cons (.inr ⟨whole.lead, rfl⟩)

/-- What a document starts with is no blank and closes nothing. -/
abbrev Opens (c : Char) : Prop := NoBlank c ∧ c ≠ ']' ∧ c ≠ '}'

theorem Opens.of_startsNumber {c : Char} (h : StartsNumber c) : Opens c := by
  have hall : ∀ d : Digit, Opens d.char := by decide
  obtain rfl | ⟨d, rfl⟩ := h
  · decide
  · exact hall d

theorem Document.ahead_render (d : Document) (rest : List Symbol) :
    Ahead Opens (d.render ++ rest) := by
  cases d with
  | number n => exact (n.ahead_render rest).imp fun _ => Opens.of_startsNumber
  | boolean b => cases b <;> exact .cons (by decide)
  | _ => exact .cons (by decide)

theorem Blanks.ahead_render (bs : Blanks) {rest : List Symbol} (h : Ahead NoNumber rest) :
    Ahead NoNumber (bs.render ++ rest) := by
  cases bs with
  | nil => exact h
  | cons b bs =>
    refine .cons ?_
    cases b <;> decide

/-- A separator or a bracket is no blank and no more of a number. -/
abbrev Closes (c : Char) : Prop := NoBlank c ∧ NoNumber c

theorem Items.ahead_render (is : Items) (rest : List Symbol) :
    Ahead Closes (is.render ++ rest) := by
  cases is with
  | close => exact .cons (by decide)
  | next => exact .cons (by decide)

theorem Members.ahead_render (ms : Members) (rest : List Symbol) :
    Ahead Closes (ms.render ++ rest) := by
  cases ms with
  | close => exact .cons (by decide)
  | next => exact .cons (by decide)

theorem readDocument_of_startsNumber (fuel : Nat) {s : List Symbol} (h : Ahead StartsNumber s) :
    readDocument (fuel + 1) s = (readNumber s).map fun (n, rest) => (.number n, rest) := by
  unfold readDocument
  split
  · exact absurd (h 'n' rfl) (by decide)
  · exact absurd (h 't' rfl) (by decide)
  · exact absurd (h 'f' rfl) (by decide)
  · exact absurd (h '"' rfl) (by decide)
  · exact absurd (h '[' rfl) (by decide)
  · exact absurd (h '{' rfl) (by decide)
  · cases readNumber s <;> rfl

theorem Document.length_render_pos (d : Document) : 0 < d.render.length := by
  cases d with
  | number n =>
    simp only [Document.render, Number.render, Whole.digits, renderDigits, List.map_cons,
      List.length_append, List.length_cons]
    omega
  | boolean b => cases b <;> exact Nat.zero_lt_succ _
  | _ => exact Nat.zero_lt_succ _

theorem Items.length_render_pos (is : Items) : 0 < is.render.length := by
  cases is <;> exact Nat.zero_lt_succ _

theorem Members.length_render_pos (ms : Members) : 0 < ms.render.length := by
  cases ms <;> exact Nat.zero_lt_succ _

/-- Blanks ahead of a document. -/
theorem readBlanks_document (bs : Blanks) (d : Document) (s : List Symbol) :
    readBlanks (bs.render ++ (d.render ++ s)) = (bs, d.render ++ s) :=
  readBlanks_render bs ((d.ahead_render s).imp fun _ h => h.1)

/-- Blanks ahead of a key. -/
theorem readBlanks_key (bs : Blanks) (key : Pieces) (s : List Symbol) :
    readBlanks (bs.render ++ (key.render ++ s)) = (bs, key.render ++ s) :=
  readBlanks_render bs (.cons (by decide))

/-- Blanks ahead of a mark. -/
theorem readBlanks_mark (bs : Blanks) {c : Char} (s : List Symbol) (h : NoBlank c) :
    readBlanks (bs.render ++ some c :: s) = (bs, some c :: s) :=
  readBlanks_render bs (.cons h)

/-- Blanks behind an item. -/
theorem readBlanks_items (bs : Blanks) (is : Items) (rest : List Symbol) :
    readBlanks (bs.render ++ (is.render ++ rest)) = (bs, is.render ++ rest) :=
  readBlanks_render bs ((is.ahead_render rest).imp fun _ h => h.1)

/-- Blanks behind a member. -/
theorem readBlanks_members (bs : Blanks) (ms : Members) (rest : List Symbol) :
    readBlanks (bs.render ++ (ms.render ++ rest)) = (bs, ms.render ++ rest) :=
  readBlanks_render bs ((ms.ahead_render rest).imp fun _ h => h.1)

theorem ahead_items (bs : Blanks) (is : Items) (rest : List Symbol) :
    Ahead NoNumber (bs.render ++ (is.render ++ rest)) :=
  bs.ahead_render ((is.ahead_render rest).imp fun _ h => h.2)

theorem ahead_members (bs : Blanks) (ms : Members) (rest : List Symbol) :
    Ahead NoNumber (bs.render ++ (ms.render ++ rest)) :=
  bs.ahead_render ((ms.ahead_render rest).imp fun _ h => h.2)

mutual
/-- A document is read back, whatever stands behind it that is no more of a number. -/
theorem readDocument_render (d : Document) {fuel : Nat} {rest : List Symbol}
    (hfuel : d.render.length ≤ fuel) (hrest : Ahead NoNumber rest) :
    readDocument fuel (d.render ++ rest) = some (d, rest) := by
  obtain ⟨fuel, rfl⟩ := Nat.exists_eq_add_one.2 (Nat.lt_of_lt_of_le d.length_render_pos hfuel)
  cases d with
  | null => rfl
  | boolean b => cases b <;> rfl
  | number n =>
    show readDocument (fuel + 1) (n.render ++ rest) = _
    rw [readDocument_of_startsNumber fuel (n.ahead_render rest), readNumber_render n hrest]
    rfl
  | string ps =>
    have hpieces := readPieces_render ps rest
    simp only [Document.render, Pieces.render, List.cons_append, List.append_assoc,
      List.nil_append, readDocument, hpieces, Option.bind_eq_bind, Option.bind_some,
      Option.pure_def]
  | emptyArray inner =>
    have hinner := readBlanks_mark inner (c := ']') rest (by decide)
    simp only [Document.render, List.cons_append, List.append_assoc, List.nil_append,
      readDocument, hinner, expect_cons]
  | array before value after more =>
    simp only [Document.render, List.length_cons, List.length_append] at hfuel
    have hbefore := readBlanks_document before value (after.render ++ (more.render ++ rest))
    have hopen : expect ']' (value.render ++ (after.render ++ (more.render ++ rest))) = none :=
      expect_of_ahead ((value.ahead_render _).imp fun _ h => h.2.1)
    have hvalue : readDocument fuel (value.render ++ (after.render ++ (more.render ++ rest))) = _ :=
      readDocument_render value (by omega) (ahead_items after more rest)
    have hmore : readItems fuel (more.render ++ rest) = _ := readItems_render more (by omega)
    simp only [Document.render, List.cons_append, List.append_assoc, readDocument, hbefore, hopen,
      hvalue, readBlanks_items, hmore, Option.bind_eq_bind, Option.bind_some, Option.pure_def]
  | emptyObject inner =>
    have hinner := readBlanks_mark inner (c := '}') rest (by decide)
    simp only [Document.render, List.cons_append, List.append_assoc, List.nil_append,
      readDocument, hinner, expect_cons]
  | object before key afterKey beforeValue value after more =>
    simp only [Document.render, List.length_cons, List.length_append] at hfuel
    have hopen : ∀ s, expect '}' (key.render ++ s) = none :=
      fun s => expect_of_ahead (.cons (by decide))
    have hcolon : ∀ s, readBlanks (afterKey.render ++ some ':' :: s) = _ :=
      fun s => readBlanks_mark afterKey s (by decide)
    have hvalue : readDocument fuel (value.render ++ (after.render ++ (more.render ++ rest))) = _ :=
      readDocument_render value (by omega) (ahead_members after more rest)
    have hmore : readMembers fuel (more.render ++ rest) = _ := readMembers_render more (by omega)
    simp only [Document.render, List.cons_append, List.append_assoc, readDocument, readBlanks_key,
      hopen, readString_render, hcolon, expect_cons, readBlanks_document, hvalue,
      readBlanks_members, hmore, Option.bind_eq_bind, Option.bind_some, Option.pure_def]

theorem readItems_render (is : Items) {fuel : Nat} {rest : List Symbol}
    (hfuel : is.render.length ≤ fuel) :
    readItems fuel (is.render ++ rest) = some (is, rest) := by
  obtain ⟨fuel, rfl⟩ := Nat.exists_eq_add_one.2 (Nat.lt_of_lt_of_le is.length_render_pos hfuel)
  cases is with
  | close => rfl
  | next before value after more =>
    simp only [Items.render, List.length_cons, List.length_append] at hfuel
    have hcomma : ∀ s, expect ']' (some ',' :: s) = none :=
      fun s => expect_of_ahead (.cons (by decide))
    have hvalue : readDocument fuel (value.render ++ (after.render ++ (more.render ++ rest))) = _ :=
      readDocument_render value (by omega) (ahead_items after more rest)
    have hmore : readItems fuel (more.render ++ rest) = _ := readItems_render more (by omega)
    simp only [Items.render, List.cons_append, List.append_assoc, readItems, hcomma, expect_cons,
      readBlanks_document, hvalue, readBlanks_items, hmore, Option.bind_eq_bind, Option.bind_some,
      Option.pure_def]

theorem readMembers_render (ms : Members) {fuel : Nat} {rest : List Symbol}
    (hfuel : ms.render.length ≤ fuel) :
    readMembers fuel (ms.render ++ rest) = some (ms, rest) := by
  obtain ⟨fuel, rfl⟩ := Nat.exists_eq_add_one.2 (Nat.lt_of_lt_of_le ms.length_render_pos hfuel)
  cases ms with
  | close => rfl
  | next before key afterKey beforeValue value after more =>
    simp only [Members.render, List.length_cons, List.length_append] at hfuel
    have hcomma : ∀ s, expect '}' (some ',' :: s) = none :=
      fun s => expect_of_ahead (.cons (by decide))
    have hcolon : ∀ s, readBlanks (afterKey.render ++ some ':' :: s) = _ :=
      fun s => readBlanks_mark afterKey s (by decide)
    have hvalue : readDocument fuel (value.render ++ (after.render ++ (more.render ++ rest))) = _ :=
      readDocument_render value (by omega) (ahead_members after more rest)
    have hmore : readMembers fuel (more.render ++ rest) = _ := readMembers_render more (by omega)
    simp only [Members.render, List.cons_append, List.append_assoc, readMembers, hcomma,
      expect_cons, readBlanks_key, readString_render, hcolon, readBlanks_document, hvalue,
      readBlanks_members, hmore, Option.bind_eq_bind, Option.bind_some, Option.pure_def]
end

/-- A text of one document between blanks reads as that document. -/
theorem readSymbols_render (before : Blanks) (d : Document) (after : Blanks) :
    readSymbols (before.render ++ (d.render ++ after.render)) = some d := by
  have hbefore := readBlanks_document before d after.render
  have hd : readDocument (before.render ++ (d.render ++ after.render)).length
      (d.render ++ after.render) = some (d, after.render) := by
    refine readDocument_render d ?_ ?_
    · simp only [List.length_append]
      omega
    · simpa using after.ahead_render .nil
  have hafter : readBlanks after.render = (after, []) := by
    simpa using readBlanks_render after .nil
  simp only [readSymbols, hbefore, hd, hafter, Option.bind_eq_bind, Option.bind_some, if_true]

/-- The text of a document, between any blanks. -/
def Document.WrittenAs (d : Document) (raw : String) : Prop :=
  ∃ before after : Blanks, symbols raw = before.render ++ (d.render ++ after.render)

theorem Document.WrittenAs.read {d : Document} {raw : String} (h : d.WrittenAs raw) :
    read raw = some d := by
  obtain ⟨before, after, hraw⟩ := h
  rw [Json.read, hraw, readSymbols_render]

end Sandbox.Json
