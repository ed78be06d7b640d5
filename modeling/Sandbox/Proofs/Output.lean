-- SUMMARY: The value of an output travels as the text it was written in, alone or among other outputs.
import Sandbox.Assembly
import Sandbox.Proofs.Dict
import Sandbox.Proofs.Json.Text

/-!
# Values of outputs

An output keeps the text of its value and nothing around it. Written as an entry of
an object under its name, the same text is cut out of the object again, so outputs
that are reported together are those that are given one by one.
-/

namespace Sandbox

open Sandbox.Json

namespace Output

/-! ## One value -/

/-- The output of a value keeps the text of the document that the value writes. -/
theorem ofValue?_eq_some_iff {raw : String} {o : Output} :
    ofValue? raw = some o ↔
      ∃ d : Document, d.WrittenAs raw ∧ d.text? = some o.value ∧ o = ⟨false, .null, o.value⟩ := by
  simp only [ofValue?, Option.bind_eq_bind, Option.bind_eq_some_iff, read_eq_some_iff,
    Option.pure_def, Option.some.injEq]
  constructor
  · intro h
    obtain ⟨d, hd, value, hvalue, rfl⟩ := h
    exact ⟨d, hd, hvalue, rfl⟩
  · intro h
    obtain ⟨d, hd, hvalue, ho⟩ := h
    exact ⟨d, hd, o.value, hvalue, ho.symm⟩

theorem eq_of_ofValue? {raw : String} {o : Output} (h : ofValue? raw = some o) :
    o = ⟨false, .null, trimmed raw⟩ ∧ ofValue? o.value = some o := by
  obtain ⟨d, hd, hvalue, ho⟩ := ofValue?_eq_some_iff.1 h
  constructor
  · rw [hd.trimmed_eq hvalue]
    exact ho
  · have halone : d.WrittenAs o.value :=
      ⟨[], [], by simp [Blanks.render, Document.text?_eq_some_iff.1 hvalue]⟩
    exact ofValue?_eq_some_iff.2 ⟨d, halone, hvalue, ho⟩

/-! ## One entry -/

/-- The members of the entry of an output. -/
def members (value : Document) : List (Pieces × Document) :=
  [(.ofString "sensitive", .boolean false), (.ofString "type", .null), (.ofString "value", value)]

theorem ofJson?_of_members {entry value : Document} {o : Output}
    (hentry : entry.members? = some (members value)) (hvalue : value.text? = some o.value)
    (ho : o = ⟨false, .null, o.value⟩) : ofJson? entry = some o := by
  have hitems : entry.items? = none := by
    cases entry with
    | emptyArray => cases hentry
    | array => cases hentry
    | _ => rfl
  have hpairs : entry.pairs? Pieces.content? some =
      some [("sensitive", .boolean false), ("type", .null), ("value", value)] := by
    simp [Document.pairs?, hentry, members, content?_ofString]
  have hfields : entry.fields? ["sensitive", "type", "value"] =
      some [("sensitive", .boolean false), ("type", .null), ("value", value)] := by
    simp [Document.fields?, hpairs]
  have hparts : ofParts? (some (.boolean false)) (some .null) value = some o := by
    show (value.text? >>= fun text => some ⟨false, .null, text⟩) = some o
    rw [hvalue, ho]
    rfl
  rw [ofJson?, hitems, hfields]
  exact hparts

/-- An output of a value is read back from its entry. -/
theorem exists_entry {raw : String} {o : Output} (h : ofValue? raw = some o) :
    ∃ entry : Document, Text.symbols o.text = entry.render ∧ ofJson? entry = some o := by
  obtain ⟨d, -, hvalue, ho⟩ := ofValue?_eq_some_iff.1 h
  have hwrites : List.Forall₂ Writes
      [("\"sensitive\"", "false"), ("\"type\"", "null"), ("\"value\"", o.value)] (members d) := by
    have hkey : Text.symbols "\"value\"" = (Pieces.ofString "value").render := by decide
    refine .cons ⟨by decide, by decide⟩ (.cons ⟨by decide, by decide⟩ (.cons ⟨hkey, ?_⟩ .nil))
    exact Document.text?_eq_some_iff.1 hvalue
  obtain ⟨entry, hrender, hentry⟩ := exists_object hwrites
  refine ⟨entry, ?_, ofJson?_of_members hentry hvalue ho⟩
  rw [← hrender, ho]
  rfl

end Output

/-! ## All outputs -/

namespace Outputs

/-- Outputs of values are read back from an object that has their entries as its members. -/
theorem ofText?_objectText {outputs : Outputs}
    (hvalues : ∀ name o, outputs.get? name = some o → ∃ raw, Output.ofValue? raw = some o)
    {spell : String → String} (hspell : ∀ name, Spells (spell name) name)
    {members : List (String × Output)} (hperm : members.Perm outputs.entries) :
    ofText? (objectText (members.map fun member => (spell member.1, member.2.text))) =
      some outputs := by
  have hentry : ∀ o : Output, ∃ entry : Document, (∃ raw, Output.ofValue? raw = some o) →
      Text.symbols o.text = entry.render ∧ Output.ofJson? entry = some o := by
    intro o
    by_cases ho : ∃ raw, Output.ofValue? raw = some o
    · obtain ⟨raw, hraw⟩ := ho
      obtain ⟨entry, hentry⟩ := Output.exists_entry hraw
      exact ⟨entry, fun _ => hentry⟩
    · exact ⟨.null, fun h => absurd h ho⟩
  choose entry hentry using hentry
  choose key hkey using hspell
  have hmember : ∀ member ∈ members, ∃ raw, Output.ofValue? raw = some member.2 := by
    intro member hmem
    exact hvalues member.1 member.2 (Dict.get?_eq_some_iff.2 (hperm.mem_iff.1 hmem))
  have hwrites : List.Forall₂ Writes
      (members.map fun member => (spell member.1, member.2.text))
      (members.map fun member => (key member.1, entry member.2)) := by
    refine List.forall₂_map_left_iff.2 (List.forall₂_map_right_iff.2 (List.forall₂_same.2 ?_))
    intro member hmem
    exact ⟨(hkey member.1).1, (hentry member.2 (hmember member hmem)).1⟩
  obtain ⟨d, hrender, hd⟩ := exists_object hwrites
  have hpairs : d.pairs? Pieces.content? Output.ofJson? = some members := by
    simp only [Document.pairs?, hd, Option.bind_eq_bind, Option.bind_some, List.mapM_map]
    refine Checks.mapM_option_eq_some.2 (List.forall₂_same.2 ?_)
    intro member hmem
    simp [(hkey member.1).2, (hentry member.2 (hmember member hmem)).2]
  have hread : Json.read (objectText (members.map fun m => (spell m.1, m.2.text))) = some d :=
    read_eq_some_iff.2 ⟨[], [], by simpa [Blanks.render] using hrender⟩
  rw [ofText?, hread]
  show (d.pairs? Pieces.content? Output.ofJson?).map Dict.ofList = some outputs
  rw [hpairs, Option.map_some, Dict.ofList_of_perm hperm]

/-- The text of one object with the entries of all outputs. -/
def printed (outputs : Outputs) : String :=
  objectText (outputs.entries.map fun member => ((Document.ofString member.1).text, member.2.text))

theorem ofBytes?_printed {outputs : Outputs}
    (hvalues : ∀ name o, outputs.get? name = some o → ∃ raw, Output.ofValue? raw = some o) :
    ofBytes? (Text.Utf8.bytes outputs.printed) = some outputs := by
  rw [ofBytes?, Text.Utf8.bytes, readBytes_toUTF8]
  exact ofText?_objectText hvalues spells_text (List.Perm.refl _)

/-- The value of an output is the text given for it without the blanks around it, which gives the
    same output again. And outputs that are given one by one are those that are read from any
    object with their entries, in whatever order and with whatever escapes in the names. -/
theorem values_travel_verbatim :
    (∀ raw o, Output.ofValue? raw = some o →
      o = ⟨false, .null, trimmed raw⟩ ∧ Output.ofValue? o.value = some o) ∧
    ∀ texts : Dict String String,
      (∀ name raw, texts.get? name = some raw → ∃ o, Output.ofValue? raw = some o) →
      ∃ outputs : Outputs,
        (∀ name, name ∈ outputs.keys ↔ name ∈ texts.keys) ∧
        (∀ name, outputs.get? name = texts.get? name >>= Output.ofValue?) ∧
        ∀ (spell : String → String) (members : List (String × Output)),
          (∀ name, Spells (spell name) name) → members.Perm outputs.entries →
          let document := objectText (members.map fun member => (spell member.1, member.2.text))
          ofText? document = some outputs ∧
            ofBytes? document.toUTF8.data.toList = some outputs ∧
            ∀ r : Request, (ofText? document).map r.assemble = some (r.assemble outputs) := by
  refine ⟨fun raw o => Output.eq_of_ofValue?, ?_⟩
  intro texts haccepted
  obtain ⟨outputs, houtputs⟩ := texts.exists_get?_bind Output.ofValue?
  have hnames : ∀ name, name ∈ outputs.keys ↔ name ∈ texts.keys := by
    intro name
    simp only [Dict.mem_keys_iff, houtputs, Option.bind_eq_bind, Option.bind_eq_some_iff]
    constructor
    · intro h
      obtain ⟨_, raw, hraw, -⟩ := h
      exact ⟨raw, hraw⟩
    · intro h
      obtain ⟨raw, hraw⟩ := h
      obtain ⟨o, ho⟩ := haccepted name raw hraw
      exact ⟨o, raw, hraw, ho⟩
  refine ⟨outputs, hnames, houtputs, ?_⟩
  intro spell members hspell hperm document
  have hvalues : ∀ name o, outputs.get? name = some o → ∃ raw, Output.ofValue? raw = some o := by
    intro name o ho
    rw [houtputs, Option.bind_eq_bind, Option.bind_eq_some_iff] at ho
    obtain ⟨raw, -, hraw⟩ := ho
    exact ⟨raw, hraw⟩
  have hread : ofText? document = some outputs := ofText?_objectText hvalues hspell hperm
  refine ⟨hread, ?_, ?_⟩
  · rw [ofBytes?, readBytes_toUTF8]
    exact hread
  · intro r
    rw [hread, Option.map_some]

/-- A list with blanks in and around it, and a string with an escape. -/
def twoValues : Dict String String :=
  .ofList [("a \"b\"", " [1 , 2]\n"), ("c", "\"\\u0041\"")]

theorem twoValues_travel :
    (∀ name raw, twoValues.get? name = some raw → ∃ o, Output.ofValue? raw = some o) ∧
      ∃ outputs : Outputs,
        (∀ name, outputs.get? name = twoValues.get? name >>= Output.ofValue?) ∧
        ofText? (objectText (outputs.entries.reverse.map fun member =>
          ((Document.ofString member.1).text, member.2.text))) = some outputs := by
  have haccepted : ∀ name raw, twoValues.get? name = some raw →
      ∃ o, Output.ofValue? raw = some o := by
    intro name raw h
    have hentries : (name, raw) ∈ [("a \"b\"", " [1 , 2]\n"), ("c", "\"\\u0041\"")] :=
      Dict.mem_of_get?_ofList h
    simp only [List.mem_cons, Prod.mk.injEq, List.not_mem_nil, or_false] at hentries
    rcases hentries with ⟨-, rfl⟩ | ⟨-, rfl⟩
    · exact ⟨⟨false, .null, "[1 , 2]"⟩, rfl⟩
    · exact ⟨⟨false, .null, "\"\\u0041\""⟩, rfl⟩
  obtain ⟨outputs, -, houtputs, hread⟩ := values_travel_verbatim.2 twoValues haccepted
  refine ⟨haccepted, outputs, houtputs, ?_⟩
  exact (hread _ _ spells_text outputs.entries.reverse_perm).1

end Outputs
end Sandbox
