-- SUMMARY: JSON texts without the blanks around them, and the text of an object from the texts of its parts.
import Mathlib.Data.List.DropRight
import Sandbox.Proofs.Json.Layout
import Sandbox.Proofs.Json.Verbatim
import Sandbox.Proofs.Utf8

/-!
# Texts of documents

A document neither begins nor ends with a blank, so its text can be cut out of the
blanks around it. And a text can be made an item of a greater one as it stands:
an object whose keys and values are given as texts has just these as its members.
-/

namespace Sandbox.Json

open Sandbox.Text

/-- A text and its bytes read as the same document. -/
theorem readBytes_toUTF8 (raw : String) : readBytes raw.toUTF8.data.toList = read raw := by
  rw [readBytes, Utf8.decode_toUTF8, read]

/-! ## Blanks around a document -/

/-- The characters that may stand around a document. -/
def blankChars : List Char := [' ', '\t', '\n', '\r']

/-- A text without the blanks at its ends. -/
def trimmed (raw : String) : String :=
  .ofList ((raw.toList.dropWhile (· ∈ blankChars)).rdropWhile (· ∈ blankChars))

theorem mem_blankChars (b : Blank) : b.char ∈ blankChars := by cases b <;> decide

theorem not_mem_blankChars {c : Char} (h : NoBlank c) : c ∉ blankChars := by
  intro hc
  simp only [blankChars, List.mem_cons, List.not_mem_nil, or_false] at hc
  rcases hc with rfl | rfl | rfl | rfl <;> cases h

/-- There is a last symbol, and it is a character that is no blank. -/
def Ends (s : List Symbol) : Prop := ∃ init c, s = init ++ [some c] ∧ c ∉ blankChars

theorem Ends.append_left {s : List Symbol} (h : Ends s) (ahead : List Symbol) :
    Ends (ahead ++ s) := by
  obtain ⟨init, c, rfl, hc⟩ := h
  exact ⟨ahead ++ init, c, by rw [List.append_assoc], hc⟩

theorem ends_mark {c : Char} (h : c ∉ blankChars) (ahead : List Symbol) :
    Ends (ahead ++ [some c]) := ⟨ahead, c, rfl, h⟩

theorem ends_digits (lead : Digit) (rest : List Digit) : Ends (renderDigits (lead :: rest)) := by
  have hdigit : ∀ d : Digit, d.char ∉ blankChars := by decide
  have hlast := List.dropLast_append_getLast (List.cons_ne_nil lead rest)
  rw [← hlast, renderDigits, List.map_append]
  exact ends_mark (hdigit _) _

theorem Number.ends_render (n : Number) : Ends n.render := by
  obtain ⟨negative, whole, fraction, exponent⟩ := n
  cases exponent with
  | some e => exact ((ends_digits e.lead e.rest).append_left _).append_left _
  | none =>
    rw [Number.render, Option.map_none, Option.getD_none, List.append_nil]
    cases fraction with
    | some f => exact ((ends_digits f.lead f.rest).append_left [some '.']).append_left _
    | none =>
      rw [Option.map_none, Option.getD_none, List.append_nil]
      exact (ends_digits whole.lead whole.rest).append_left _

theorem Items.ends_render : (is : Items) → Ends is.render
  | .close => ends_mark (by decide) []
  | .next _ _ _ more => more.ends_render.append_left _

theorem Members.ends_render : (ms : Members) → Ends ms.render
  | .close => ends_mark (by decide) []
  | .next _ _ _ _ _ _ more => more.ends_render.append_left _

theorem Document.ends_render (d : Document) : Ends d.render := by
  cases d with
  | null => exact ends_mark (by decide) (symbols "nul")
  | boolean b =>
    cases b with
    | true => exact ends_mark (by decide) (symbols "tru")
    | false => exact ends_mark (by decide) (symbols "fals")
  | number n => exact n.ends_render
  | string ps => exact ends_mark (by decide) _
  | emptyArray inner => exact ends_mark (by decide) _
  | array before value after more => exact more.ends_render.append_left _
  | emptyObject inner => exact ends_mark (by decide) _
  | object before key afterKey beforeValue value after more =>
    exact more.ends_render.append_left _

/-- A document has the text `value` if and only if the symbols of `value` render it. -/
theorem Document.text?_eq_some_iff {d : Document} {value : String} :
    d.text? = some value ↔ symbols value = d.render := by
  rw [text?_eq, Option.map_eq_some_iff, symbols, eq_comm]
  constructor
  · intro h
    obtain ⟨cs, hcs, rfl⟩ := h
    rw [String.toList_ofList, ← List.forall₂_eq_eq_eq, List.forall₂_map_right_iff]
    exact Checks.mapM_option_eq_some.1 hcs
  · intro h
    refine ⟨value.toList, Checks.mapM_option_eq_some.2 ?_, String.ofList_toList⟩
    rw [← List.forall₂_eq_eq_eq, List.forall₂_map_right_iff] at h
    exact h

/-- The text of a document begins and ends with a character that is no blank. -/
theorem Document.ends_of_text? {d : Document} {value : String} (h : d.text? = some value) :
    (∃ c rest, value.toList = c :: rest ∧ c ∉ blankChars) ∧
      ∃ init c, value.toList = init ++ [c] ∧ c ∉ blankChars := by
  have hsymbols : value.toList.map some = d.render := text?_eq_some_iff.1 h
  constructor
  · cases hvalue : value.toList with
    | nil =>
      have hpos := d.length_render_pos
      rw [← hsymbols, hvalue] at hpos
      cases hpos
    | cons c rest =>
      have hahead := d.ahead_render []
      rw [List.append_nil, ← hsymbols, hvalue] at hahead
      exact ⟨c, rest, rfl, not_mem_blankChars (hahead c rfl).1⟩
  · obtain ⟨_, c, hinit, hc⟩ := d.ends_render
    rw [← hsymbols] at hinit
    obtain ⟨init, last, hvalue, rfl, hlast⟩ := List.map_eq_append_iff.1 hinit
    obtain ⟨c', rfl, hsame⟩ := List.map_eq_singleton_iff.1 hlast
    obtain rfl : c' = c := Option.some.inj hsame
    exact ⟨init, c', hvalue, hc⟩

theorem rdropWhile_append_of_pos {p : Char → Bool} {cs after : List Char}
    (h : ∀ c ∈ after, p c) : (cs ++ after).rdropWhile p = cs.rdropWhile p := by
  have hreverse : ∀ c ∈ after.reverse, p c := by simpa using h
  rw [List.rdropWhile, List.reverse_append, List.dropWhile_append_of_pos hreverse, List.rdropWhile]

/-- The text of a document is what is left of any text that writes the document. -/
theorem Document.WrittenAs.trimmed_eq {d : Document} {raw value : String} (h : d.WrittenAs raw)
    (hvalue : d.text? = some value) : trimmed raw = value := by
  obtain ⟨before, after, hraw⟩ := h
  have hchars : raw.toList = before.map Blank.char ++ (value.toList ++ after.map Blank.char) := by
    refine List.map_injective_iff.2 (fun _ _ => Option.some.inj) ?_
    rw [show raw.toList.map some = _ from hraw, ← text?_eq_some_iff.1 hvalue]
    simp only [Blanks.render, symbols, List.map_append, List.map_map, Function.comp_def]
  have hblank : ∀ (bs : Blanks), ∀ c ∈ bs.map Blank.char, decide (c ∈ blankChars) = true := by
    intro bs c hc
    obtain ⟨b, -, rfl⟩ := List.mem_map.1 hc
    exact decide_eq_true (mem_blankChars b)
  obtain ⟨⟨first, rest, hfirst, hopen⟩, init, last, hlast, hclose⟩ := ends_of_text? hvalue
  have hdrop : (value.toList ++ after.map Blank.char).dropWhile (· ∈ blankChars) =
      value.toList ++ after.map Blank.char := by
    rw [hfirst, List.cons_append, List.dropWhile_cons_of_neg (by simpa using hopen)]
  have hdropEnd : value.toList.rdropWhile (· ∈ blankChars) = value.toList := by
    rw [hlast, List.rdropWhile_concat_neg _ _ _ (by simpa using hclose)]
  rw [trimmed, hchars, List.dropWhile_append_of_pos (hblank before), hdrop,
    rdropWhile_append_of_pos (hblank after), hdropEnd, String.ofList_toList]

/-! ## Objects put together -/

/-- The text of an object, from the texts of its keys and values. -/
def objectText (fields : List (String × String)) : String :=
  .singleton '{' ++ ",".intercalate (fields.map fun field => field.1 ++ ":" ++ field.2) ++
    .singleton '}'

/-- A text that writes a string, with whatever escapes. -/
def Spells (text name : String) : Prop :=
  ∃ key : Pieces, symbols text = key.render ∧ key.content? = some name

theorem spells_text (name : String) : Spells (Document.ofString name).text name := by
  refine ⟨.ofString name, ?_, content?_ofString name⟩
  rw [Document.text_eq]
  exact symbols_ofList_filterMap (none_not_mem_ofString name)

/-- A key and a value with their texts. -/
def Writes (field : String × String) (member : Pieces × Document) : Prop :=
  symbols field.1 = member.1.render ∧ symbols field.2 = member.2.render

theorem exists_members {fields : List (String × String)} {pairs : List (Pieces × Document)}
    (h : List.Forall₂ Writes fields pairs) :
    ∃ more : Members, more.pairs = pairs ∧ more.render =
      (fields.flatMap fun field => some ',' :: (symbols field.1 ++ some ':' :: symbols field.2)) ++
        [some '}'] := by
  induction h with
  | nil => exact ⟨.close, rfl, rfl⟩
  | cons hfield _ ih =>
    obtain ⟨more, rfl, hmore⟩ := ih
    refine ⟨.next [] _ [] [] _ [] more, rfl, ?_⟩
    simp [Members.render, hmore, Blanks.render, ← hfield.1, ← hfield.2]

theorem toList_intercalate_cons (separator s : String) (more : List String) :
    (separator.intercalate (s :: more)).toList =
      s.toList ++ more.flatMap fun s => separator.toList ++ s.toList := by
  induction more generalizing s with
  | nil => simp
  | cons s' more ih => simp [String.intercalate_cons_cons, ih s']

theorem symbols_objectText_cons (field : String × String) (fields : List (String × String)) :
    symbols (objectText (field :: fields)) =
      some '{' :: (symbols field.1 ++ some ':' :: symbols field.2 ++
        ((fields.flatMap fun field => some ',' :: (symbols field.1 ++ some ':' :: symbols field.2)) ++
        [some '}'])) := by
  simp only [symbols, objectText, List.map_cons, String.toList_append, toList_intercalate_cons]
  simp [List.map_flatMap, List.flatMap_map]

/-- Texts of keys and values make the text of an object with just these members. -/
theorem exists_object {fields : List (String × String)} {pairs : List (Pieces × Document)}
    (h : List.Forall₂ Writes fields pairs) :
    ∃ d : Document, symbols (objectText fields) = d.render ∧ d.members? = some pairs := by
  cases h with
  | nil => exact ⟨.emptyObject [], by decide, rfl⟩
  | cons hfield hrest =>
    obtain ⟨more, rfl, hmore⟩ := exists_members hrest
    refine ⟨.object [] _ [] [] _ [] more, ?_, rfl⟩
    rw [symbols_objectText_cons, ← hmore]
    simp [Document.render, Blanks.render, ← hfield.1, ← hfield.2]

end Sandbox.Json
