-- SUMMARY: Instances are read back from their descriptions, on one line or over several.
import Sandbox.Instance
import Sandbox.Proofs.Address
import Sandbox.Proofs.Dict
import Sandbox.Proofs.Integer
import Sandbox.Proofs.Json.Indented
import Sandbox.Proofs.Request

/-!
# Descriptions of instances

Each part of an instance is read back from the document that describes it, and
none of the readers sees whether the document is indented. So instances are read
back from the compact text and from the report alike.
-/

namespace Sandbox

open Sandbox.Json

/-! ## Builds -/

namespace BuildId

theorem isPlain_of_mem_toString {i : Int64} {c : Char} (h : c ∈ (toString i).toList) :
    isPlain c := by
  rcases Text.isDigit_or_eq_of_mem_toString h with hdigit | rfl
  · have hlow : '0'.toNat ≤ c.toNat := (Char.isDigit_iff_toNat.1 hdigit).1
    refine isPlain_iff.2 ⟨Nat.le_trans (by decide) hlow, ?_, ?_⟩
    · rintro rfl
      cases hdigit
    · rintro rfl
      cases hdigit
  · rfl

/-- Characters that stand for themselves are found as they were written. -/
theorem unescaped?_ofString {s : String} (h : ∀ c ∈ s.toList, isPlain c) :
    unescaped? (.ofString s) = some s.toList := by
  refine Checks.mapM_option_eq_some.2 (List.forall₂_map_left_iff.2 (List.forall₂_same.2 ?_))
  intro c hc
  simp [pieceOfChar, h c hc]

theorem ofKey?_key (id : BuildId) : ofKey? (.ofString id.key) = some id := by
  have hchars : unescaped? (.ofString id.key) = some id.key.toList :=
    unescaped?_ofString fun c hc => isPlain_of_mem_toString hc
  have hinteger : Text.readInteger id.key.toList = .ok id.value := Text.integer_toString id.value
  simp [ofKey?, hchars, hinteger, Except.toOption]

end BuildId

/-! ## Topologies -/

namespace Topology

theorem ofJson?_toJson (t : Topology) : ofJson? t.toJson = some t := by
  simp [toJson, Document.ofString, ofJson?, ofKey?, content?_ofString, ofName?_name]

theorem ignoresIndent_ofJson? : IgnoresIndent ofJson? := by
  intro d level
  cases d with
  | object before key afterKey beforeValue value after more =>
    cases more with
    | close => simp [Document.indented, Members.indented, ofJson?, Document.members?,
        Members.pairs, isNull_indented]
    | next => rfl
  | _ => rfl

end Topology

/-! ## Machines -/

namespace Machine

theorem addressOfJson?_addressToJson (a : Option Address) :
    addressOfJson? (addressToJson a) = some a := by
  cases a with
  | none => rfl
  | some a =>
    have htext := string?_ofString a.text
    simp only [addressOfJson?, addressToJson, htext]
    simp [Document.isNull, Document.ofString, Address.ofText?_text]

theorem ofJson?_toJson (m : Machine) : ofJson? m.toJson = some m := by
  have hfields : m.toJson.fields? ["ip", "control_ip"] =
      some [("ip", addressToJson m.address), ("control_ip", addressToJson m.controlAddress)] :=
    fields?_ofFields rfl (by decide)
  have hitems : m.toJson.items? = none := items?_ofFields _
  simp [ofJson?, hitems, hfields, List.lookup_cons, addressOfJson?_addressToJson]

theorem none_not_mem_toJson (m : Machine) : none ∉ m.toJson.render := by
  have haddress : ∀ a : Option Address, none ∉ (addressToJson a).render := by
    intro a
    cases a with
    | none => decide
    | some a => exact none_not_mem_ofString a.text
  exact none_not_mem_ofFields (by simp [haddress])

theorem ignoresIndent_addressOfJson? : IgnoresIndent addressOfJson? := by
  intro d level
  simp only [addressOfJson?, isNull_indented, IgnoresIndent.string? d level]

theorem ignoresIndent_ofJson? : IgnoresIndent ofJson? := by
  intro d level
  simp only [ofJson?, items?_indented, fields?_indented]
  match d.items? with
  | some [address, controlAddress] => simp [ignoresIndent_addressOfJson? _ (level + 1)]
  | some [] => rfl
  | some [_] => rfl
  | some (_ :: _ :: _ :: _) => rfl
  | none =>
    cases d.fields? ["ip", "control_ip"] with
    | none => rfl
    | some fields =>
      simp only [Option.map_none, Option.map_some, Option.bind_eq_bind, Option.bind_some,
        lookup_indented]
      cases fields.lookup "ip" <;> cases fields.lookup "control_ip" <;>
        simp [ignoresIndent_addressOfJson? _ (level + 1)]

end Machine

/-! ## Instances -/

namespace Instance

theorem ofJson?_toJson (i : Instance) : ofJson? i.toJson = some i := by
  have hmachines := list?_ofList Machine.ofJson?_toJson
  have hitems : i.toJson.items? = none := items?_ofFields _
  have hfields : i.toJson.fields? ["sandbox_type", "load_generators", "suts", "backends"] = some
      [("sandbox_type", i.topology.toJson),
       ("load_generators", .ofList (i.loadGenerators.map Machine.toJson)),
       ("suts", .ofList (i.systemsUnderTest.map Machine.toJson)),
       ("backends", .ofList (i.backends.map Machine.toJson))] :=
    fields?_ofFields rfl (by decide)
  simp [ofJson?, hitems, hfields, List.lookup_cons, ofParts?, Topology.ofJson?_toJson, hmachines]

theorem ignoresIndent_ofJson? : IgnoresIndent ofJson? := by
  intro d level
  have hmachines := IgnoresIndent.list? Machine.ignoresIndent_ofJson?
  have hparts : ∀ t ls ss bs : Document, ofParts? (t.indented (level + 1))
      (ls.indented (level + 1)) (ss.indented (level + 1)) (bs.indented (level + 1)) =
        ofParts? t ls ss bs := by
    intro t ls ss bs
    simp only [ofParts?, Topology.ignoresIndent_ofJson? _ (level + 1), hmachines _ (level + 1)]
  simp only [ofJson?, items?_indented, fields?_indented]
  match d.items? with
  | some [topology, loadGenerators, systemsUnderTest, backends] => exact hparts _ _ _ _
  | some [] => rfl
  | some [_] => rfl
  | some [_, _] => rfl
  | some [_, _, _] => rfl
  | some (_ :: _ :: _ :: _ :: _ :: _) => rfl
  | none =>
    cases d.fields? ["sandbox_type", "load_generators", "suts", "backends"] with
    | none => rfl
    | some fields =>
      simp only [Option.map_none, Option.map_some, Option.bind_eq_bind, Option.bind_some,
        lookup_indented, Option.bind_map, Function.comp_def, hparts]

theorem none_not_mem_toJson (i : Instance) : none ∉ i.toJson.render := by
  have hmachines : ∀ ms : List Machine, none ∉ (Document.ofList (ms.map Machine.toJson)).render :=
    fun ms => none_not_mem_ofList (List.forall_mem_map.2 fun m _ => m.none_not_mem_toJson)
  have htopology : none ∉ i.topology.toJson.render := none_not_mem_ofString i.topology.name
  exact none_not_mem_ofFields (by simp [hmachines, htopology])

/-- An instance is read back from the text that messages show for it. -/
theorem read_toString (i : Instance) : Json.read (toString i) >>= ofJson? = some i := by
  have hread : Json.read (toString i) = some i.toJson :=
    (Document.writtenAs_text i.none_not_mem_toJson).read
  rw [hread]
  exact ofJson?_toJson i

end Instance

namespace Instances

theorem ofJson?_toJson (is : Instances) : ofJson? is.toJson = some is := by
  have hpairs := pairs?_ofFields BuildId.ofKey?_key Instance.ofJson?_toJson is.entries
  simp only [ofJson?, toJson, Document.dict?, hpairs, Option.map_some, Dict.ofList_entries]

theorem ignoresIndent_ofJson? : IgnoresIndent ofJson? :=
  IgnoresIndent.dict? Instance.ignoresIndent_ofJson?

theorem none_not_mem_toJson (is : Instances) : none ∉ is.toJson.render := by
  refine none_not_mem_ofFields (List.forall_mem_map.2 ?_)
  intro entry _
  exact entry.2.none_not_mem_toJson

theorem read_text (is : Instances) : Json.read is.toJson.text >>= ofJson? = some is := by
  rw [(Document.writtenAs_text is.none_not_mem_toJson).read]
  exact ofJson?_toJson is

theorem read_report (is : Instances) : Json.read is.report >>= ofJson? = some is := by
  have hnone := is.toJson.none_not_mem_indented 0 is.none_not_mem_toJson
  have hread : Json.read is.report = some (is.toJson.indented 0) :=
    (Document.writtenAs_text hnone).append_newline.read
  rw [hread]
  exact (ignoresIndent_ofJson? is.toJson 0).trans is.ofJson?_toJson

/-- Instances are read back from their description, whether it is on one line or over several, and
    a single instance is read back from the text that messages show for it. -/
theorem descriptions_read_back :
    (∀ is : Instances, Json.read is.toJson.text >>= ofJson? = some is ∧
      Json.read is.report >>= ofJson? = some is) ∧
    ∀ i : Instance, Json.read (toString i) >>= Instance.ofJson? = some i :=
  ⟨fun is => ⟨is.read_text, is.read_report⟩, Instance.read_toString⟩

end Instances

end Sandbox
