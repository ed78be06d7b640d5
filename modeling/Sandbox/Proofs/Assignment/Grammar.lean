-- SUMMARY: Which texts are read as assignments, and which of them are written back as they are.
import Sandbox.Proofs.Assignment
import Sandbox.Proofs.Integer.Numeral

/-!
# The grammar of assignments

A text is read as an assignment exactly if it is a topology's name, `=`, and in
brackets at least one numeral, with single commas between numerals, whose values
are positive, in range and different. The assignment is written back as the same
text exactly if all numerals are canonical.
-/

namespace Sandbox

open Checks Text

theorem Topology.name_of_ofName? {s : String} {t : Topology} (h : ofName? s = some t) :
    t.name = s := by
  have hname := List.find?_some h
  exact beq_iff_eq.1 hname

namespace Assignment

/-! ## Parts of a text -/

theorem eq_append_of_splitAtEquals {cs before after : List Char}
    (h : splitAtEquals cs = some (before, after)) : cs = before ++ '=' :: after := by
  induction cs generalizing before with
  | nil => cases h
  | cons c cs ih =>
    unfold splitAtEquals at h
    split at h
    · next hc =>
      cases h
      rw [hc]
      rfl
    · obtain ⟨⟨before', after'⟩, hsplit, heq⟩ := Option.map_eq_some_iff.1 h
      cases heq
      rw [ih hsplit]
      rfl

theorem eq_append_of_unbracket? {cs inner : List Char} (h : unbracket? cs = some inner) :
    cs = '[' :: (inner ++ [']']) := by
  unfold unbracket? at h
  split at h
  · split at h
    · next hlast =>
      cases h
      rw [List.dropLast_append_getLast? _ hlast]
    · cases h
  · cases h

theorem ofText_eq_ok {s : String} {v : Assignment} :
    ofText s = .ok v ↔
      ∃ inner, s.toList = v.topology.name.toList ++ '=' :: '[' :: (inner ++ [']']) ∧
        readIds inner = .ok (v.ids.map (·.value)) ∧ v.ids ≠ [] ∧ v.ids.Nodup := by
  constructor
  · intro h
    unfold ofText at h
    split at h
    · next name list hsplit =>
      split at h
      · next t ht =>
        split at h
        · next inner hinner =>
          obtain ⟨ids, hids, h⟩ := bind_eq_ok.1 h
          obtain ⟨builds, hbuilds, h⟩ := bind_eq_ok.1 h
          cases h
          obtain ⟨rfl, hne, hnodup⟩ := Request.checkIds_eq_ok.1 hbuilds
          refine ⟨inner, ?_, mapError_eq_ok.1 hids, hne, hnodup⟩
          rw [eq_append_of_splitAtEquals hsplit, eq_append_of_unbracket? hinner,
            Topology.name_of_ofName? ht, String.toList_ofList]
        · cases h
      · cases h
    · cases h
  · rintro ⟨inner, htext, hids, hne, hnodup⟩
    exact ofText_of_parts htext hids hne hnodup

/-! ## Numerals between commas -/

theorem comma_not_mem_chars (n : Numeral) : ',' ∉ n.chars :=
  n.not_mem_chars (by decide) (by decide)

/-- Numerals write the values of builds. -/
def Writes (ns : List Numeral) (ids : List BuildId) : Prop :=
  ns.map (fun n => (n.value : Int)) = ids.map (·.value.toInt)

theorem writes_iff_forall₂ {ns : List Numeral} {ids : List BuildId} :
    Writes ns ids ↔ List.Forall₂ (fun n id => (n.value : Int) = id.value.toInt) ns ids := by
  rw [Writes, ← List.forall₂_eq_eq_eq, List.forall₂_map_left_iff, List.forall₂_map_right_iff]

theorem exists_numerals {items : List (List Char)} {ids : List BuildId}
    (h : List.Forall₂ (fun item id => readInteger item = .ok id.value) items ids) :
    ∃ ns : List Numeral, ns.map Numeral.chars = items ∧ Writes ns ids := by
  simp only [writes_iff_forall₂]
  induction h with
  | nil => exact ⟨[], rfl, .nil⟩
  | @cons item id items ids hitem _ ih =>
    obtain ⟨n, rfl, hvalue⟩ := (readInteger_eq_ok_iff id.positive).1 hitem
    obtain ⟨ns, rfl, hns⟩ := ih
    exact ⟨n :: ns, rfl, .cons hvalue hns⟩

theorem readIds_eq_ok_iff {inner : List Char} {ids : List BuildId} (hne : ids ≠ []) :
    readIds inner = .ok (ids.map (·.value)) ↔
      ∃ ns : List Numeral, inner = [','].intercalate (ns.map Numeral.chars) ∧ Writes ns ids := by
  constructor
  · intro h
    unfold readIds at h
    split at h
    · exact absurd (List.map_eq_nil_iff.1 (Except.ok.inj h).symm) hne
    · rw [mapM_eq_ok, List.forall₂_map_right_iff] at h
      obtain ⟨ns, hitems, hwrites⟩ := exists_numerals h
      exact ⟨ns, by rw [hitems, List.intercalate_splitOn], hwrites⟩
  · rintro ⟨ns, rfl, hwrites⟩
    have hall := writes_iff_forall₂.1 hwrites
    have hns : ns ≠ [] := by
      rintro rfl
      exact hne (List.forall₂_nil_left_iff.1 hall)
    rw [readIds_intercalate (by simpa using hns)]
    case hcomma => exact List.forall_mem_map.2 fun n _ => comma_not_mem_chars n
    case hitems => exact List.forall_mem_map.2 fun n _ => n.chars_ne_nil
    refine mapM_eq_ok.2 (List.forall₂_map_left_iff.2 (List.forall₂_map_right_iff.2 ?_))
    exact hall.imp fun n id hvalue => (readInteger_eq_ok_iff id.positive).2 ⟨n, rfl, hvalue⟩

theorem Writes.nodup_iff {ns : List Numeral} {ids : List BuildId} (h : Writes ns ids) :
    (ns.map Numeral.value).Nodup ↔ ids.Nodup := by
  have hinj : Function.Injective fun id : BuildId => id.value.toInt := fun a b hab =>
    BuildId.value_injective (Int64.toInt_inj.1 hab)
  have hvalues : (ns.map Numeral.value).map Int.ofNat = ids.map (·.value.toInt) := by
    rw [List.map_map]
    exact h
  rw [← List.nodup_map_iff hinj, ← hvalues, List.nodup_map_iff fun _ _ => Int.ofNat.inj]

theorem exists_build_iff {n : Nat} :
    (∃ id : BuildId, (n : Int) = id.value.toInt) ↔ 1 ≤ n ∧ n ≤ 9223372036854775807 := by
  constructor
  · rintro ⟨id, hid⟩
    have hpos : 1 ≤ id.value.toInt := Int64.le_iff_toInt_le.1 id.positive
    have hmax : id.value.toInt ≤ 9223372036854775807 := id.value.toInt_le
    omega
  · rintro ⟨hpos, hmax⟩
    have hvalue : (Int64.ofInt n).toInt = n := Int64.toInt_ofInt_of_le (by omega) (by omega)
    refine ⟨⟨.ofInt n, Int64.le_iff_toInt_le.2 ?_⟩, hvalue.symm⟩
    rw [hvalue]
    exact Int.ofNat_le.2 hpos

/-- Numerals write builds exactly if their values are positive and in range. -/
theorem exists_writes_iff {ns : List Numeral} :
    (∃ ids, Writes ns ids) ↔ ∀ n ∈ ns, 1 ≤ n.value ∧ n.value ≤ 9223372036854775807 := by
  simp only [writes_iff_forall₂, exists_forall₂_iff, exists_build_iff]

/-! ## Texts -/

/-- A topology's name, `=`, and numerals in brackets with commas between them. -/
def spelling (t : Topology) (ns : List Numeral) : String :=
  t.name ++ "=[" ++ ",".intercalate (ns.map Numeral.text) ++ "]"

theorem toList_spelling (t : Topology) (ns : List Numeral) :
    (spelling t ns).toList =
      t.name.toList ++ '=' :: '[' :: ([','].intercalate (ns.map Numeral.chars) ++ [']']) := by
  have hchars : ns.map (String.toList ∘ Numeral.text) = ns.map Numeral.chars :=
    List.map_congr_left fun n _ => String.toList_ofList
  simp only [spelling, String.toList_append, String.toList_intercalate, List.map_map, hchars,
    List.append_assoc]
  rfl

/-- A text gives a topology builds by numerals: at least one, all of them positive, in range and
    different in value. -/
structure Spells (s : String) (t : Topology) (ns : List Numeral) : Prop where
  text : s = spelling t ns
  nonempty : ns ≠ []
  inRange : ∀ n ∈ ns, 1 ≤ n.value ∧ n.value ≤ 9223372036854775807
  distinct : (ns.map Numeral.value).Nodup

theorem ofText_eq_ok_iff_spells {s : String} {v : Assignment} :
    ofText s = .ok v ↔ ∃ ns, Spells s v.topology ns ∧ Writes ns v.ids := by
  rw [ofText_eq_ok]
  constructor
  · rintro ⟨inner, htext, hids, hne, hnodup⟩
    obtain ⟨ns, rfl, hwrites⟩ := (readIds_eq_ok_iff hne).1 hids
    refine ⟨ns, ⟨?_, ?_, exists_writes_iff.1 ⟨v.ids, hwrites⟩, hwrites.nodup_iff.2 hnodup⟩, hwrites⟩
    · rw [← String.toList_inj, htext, toList_spelling]
    · rintro rfl
      exact hne (List.map_eq_nil_iff.1 hwrites.symm)
  · rintro ⟨ns, ⟨rfl, hne, -, hdistinct⟩, hwrites⟩
    have hids : v.ids ≠ [] := by
      intro hnil
      rw [hnil] at hwrites
      exact hne (List.map_eq_nil_iff.1 hwrites)
    exact ⟨_, toList_spelling v.topology ns, (readIds_eq_ok_iff hids).2 ⟨ns, rfl, hwrites⟩, hids,
      hwrites.nodup_iff.1 hdistinct⟩

/-! ## Texts written back -/

/-- The request for the builds of an assignment. -/
def request (v : Assignment) : Request := Request.empty.insert v.topology (v.ids.map (·.value))

theorem assignments_request {v : Assignment} (hne : v.ids ≠ []) (hnodup : v.ids.Nodup) :
    v.request.assignments = .ok [v] := by
  obtain ⟨⟨⟩, ids⟩ := v
  have hlist : (request ⟨.defaultX64, ids⟩).lists.get? .defaultX64 = some (ids.map (·.value)) := by
    rw [request, Request.insert, Dict.get?_insert, if_pos rfl]
  exact Request.assignments_eq_ok.2 ⟨ids, ⟨hlist, hne, hnodup⟩, rfl⟩

theorem map_toString_eq_iff {ns : List Numeral} {ids : List BuildId} (h : Writes ns ids) :
    (ids.map fun id => (toString id).toList) = ns.map Numeral.chars ↔ ∀ n ∈ ns, n.Canonical := by
  have hall := writes_iff_forall₂.1 h
  clear h
  induction hall with
  | nil => simp
  | cons hvalue _ ih =>
    rw [List.map_cons, List.map_cons, List.cons_eq_cons, List.forall_mem_cons]
    exact and_congr (Numeral.toString_eq_chars_iff hvalue) ih

/-- Builds are written as the numerals they are read from exactly if these are canonical. -/
theorem idsChars_eq_iff {ns : List Numeral} {ids : List BuildId} (h : Writes ns ids)
    (hne : ns ≠ []) :
    idsChars ids = [','].intercalate (ns.map Numeral.chars) ↔ ∀ n ∈ ns, n.Canonical := by
  rw [← map_toString_eq_iff h]
  constructor
  · intro heq
    have hids : ids ≠ [] := by
      rintro rfl
      exact hne (List.map_eq_nil_iff.1 h)
    have hsplit := congrArg (List.splitOn ',') heq
    rwa [idsChars, List.splitOn_intercalate, List.splitOn_intercalate] at hsplit
    · exact List.forall_mem_map.2 fun n _ => comma_not_mem_chars n
    · simpa using hne
    · exact List.forall_mem_map.2 fun id _ => comma_not_mem_toString id
    · simpa using hids
  · intro heq
    rw [idsChars, heq]

/-- A text is read as an assignment exactly if it spells one by numerals, and the builds are then
    what the numerals write, in order. The request for these builds has the same text as its only
    assignment exactly if the numerals are canonical. -/
theorem ofText_iff_spelled (s : String) :
    ((∃ v, ofText s = .ok v) ↔ ∃ t ns, Spells s t ns) ∧
      ∀ t ns, Spells s t ns → ∃ v, ofText s = .ok v ∧ v.topology = t ∧
        v.ids.map (·.value.toInt) = ns.map (fun n => (n.value : Int)) ∧
        (v.request.assignments.map (List.map text) = .ok [s] ↔ ∀ n ∈ ns, n.Canonical) := by
  have hread : ∀ t ns, Spells s t ns →
      ∃ v : Assignment, v.topology = t ∧ Writes ns v.ids ∧ ofText s = .ok v := by
    intro t ns h
    obtain ⟨ids, hids⟩ := exists_writes_iff.2 h.inRange
    exact ⟨⟨t, ids⟩, rfl, hids, ofText_eq_ok_iff_spells.2 ⟨ns, h, hids⟩⟩
  constructor
  · constructor
    · rintro ⟨v, hv⟩
      obtain ⟨ns, h, -⟩ := ofText_eq_ok_iff_spells.1 hv
      exact ⟨_, ns, h⟩
    · rintro ⟨t, ns, h⟩
      obtain ⟨v, -, -, hv⟩ := hread t ns h
      exact ⟨v, hv⟩
  · intro t ns h
    obtain ⟨v, rfl, hwrites, hv⟩ := hread t ns h
    refine ⟨v, hv, rfl, hwrites.symm, ?_⟩
    obtain ⟨-, -, -, hne, hnodup⟩ := ofText_eq_ok.1 hv
    rw [assignments_request hne hnodup, ← idsChars_eq_iff hwrites h.nonempty]
    have htext : v.text = s ↔ idsChars v.ids = [','].intercalate (ns.map Numeral.chars) := by
      rw [← String.toList_inj, h.text, toList_text, toList_spelling]
      simp
    simpa [Except.map] using htext

example : ofText "default_sandbox_x64_build_ids=[1,01]" = .error (.duplicateInstance .defaultX64 1) :=
  rfl

end Assignment

end Sandbox
