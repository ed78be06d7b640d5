-- SUMMARY: The text of an assignment reads back as the assignment.
import Sandbox.Proofs.Integer
import Sandbox.Proofs.Request

/-!
# Reading assignments back

The parts of an assignment's text are found again where they were written: the
name before the first `=`, the list between the brackets, the builds between the
commas.
-/

namespace Sandbox

open Checks

theorem Topology.equals_not_mem_name (t : Topology) : '=' ∉ t.name.toList := by
  cases t; decide +kernel

namespace Assignment

theorem splitAtEquals_append {before after : List Char} (h : '=' ∉ before) :
    splitAtEquals (before ++ '=' :: after) = some (before, after) := by
  induction before with
  | nil => simp [splitAtEquals]
  | cons c before ih =>
    have hc : c ≠ '=' := fun hc => h (hc ▸ List.mem_cons_self)
    simp [splitAtEquals, hc, ih fun hmem => h (List.mem_cons_of_mem _ hmem)]

theorem unbracket?_append (inner : List Char) :
    unbracket? ('[' :: (inner ++ [']'])) = some inner := by
  simp [unbracket?]

/-- The characters of a list of builds between commas. -/
def idsChars (ids : List BuildId) : List Char :=
  [','].intercalate (ids.map fun id => (toString id).toList)

theorem toList_text (v : Assignment) :
    v.text.toList = v.topology.name.toList ++ '=' :: '[' :: (idsChars v.ids ++ [']']) := by
  simp only [text, String.toList_append, String.toList_intercalate, List.map_map, idsChars,
    List.append_assoc]
  rfl

theorem comma_not_mem_toString (id : BuildId) : ',' ∉ (toString id).toList := by
  intro h
  cases Text.isDigit_or_eq_of_mem_toString h with
  | inl hdigit => revert hdigit; decide
  | inr hminus => revert hminus; decide

/-- The items between commas are read one after the other. -/
theorem readIds_intercalate {items : List (List Char)} (hne : items ≠ [])
    (hcomma : ∀ item ∈ items, ',' ∉ item) (hitems : ∀ item ∈ items, item ≠ []) :
    readIds ([','].intercalate items) = items.mapM Text.readInteger := by
  have hsplit := List.splitOn_intercalate ',' hcomma hne
  have hnonempty : [','].intercalate items ≠ [] := by
    intro hnil
    rw [hnil, List.splitOn_nil] at hsplit
    exact hitems [] (hsplit ▸ List.mem_cons_self) rfl
  rw [readIds, if_neg (by simpa using hnonempty), hsplit]

theorem readIds_idsChars (ids : List BuildId) :
    readIds (idsChars ids) = .ok (ids.map (·.value)) := by
  cases ids with
  | nil => rfl
  | cons id ids =>
    rw [idsChars, readIds_intercalate (by simp)]
    case hcomma => exact List.forall_mem_map.2 fun id' _ => comma_not_mem_toString id'
    case hitems => exact List.forall_mem_map.2 fun id' _ => Text.toList_toString_ne_nil id'.value
    rw [List.mapM_map]
    refine mapM_eq_ok.2 (List.forall₂_map_right_iff.2 (List.forall₂_same.2 fun id' _ => ?_))
    exact Text.integer_toString id'.value

/-- A topology's name and builds that meet the rules are found in a text that has them at their
    places. -/
theorem ofText_of_parts {s : String} {v : Assignment} {inner : List Char}
    (htext : s.toList = v.topology.name.toList ++ '=' :: '[' :: (inner ++ [']']))
    (hids : readIds inner = .ok (v.ids.map (·.value))) (hne : v.ids ≠ []) (hnodup : v.ids.Nodup) :
    ofText s = .ok v := by
  have hcheck : Request.checkIds v.topology (v.ids.map (·.value)) = .ok v.ids :=
    Request.checkIds_eq_ok.2 ⟨rfl, hne, hnodup⟩
  rw [ofText, htext, splitAtEquals_append v.topology.equals_not_mem_name]
  simp only [String.ofList_toList, Topology.ofName?_name, unbracket?_append, hids]
  show (Request.checkIds v.topology (v.ids.map (·.value)) >>= fun ids => pure ⟨v.topology, ids⟩) =
    .ok v
  rw [hcheck]
  rfl

/-- An assignment of builds that meet the rules is read back from its text. -/
theorem ofText_text {v : Assignment} (hne : v.ids ≠ []) (hnodup : v.ids.Nodup) :
    ofText v.text = .ok v :=
  ofText_of_parts (toList_text v) (readIds_idsChars v.ids) hne hnodup

end Assignment

/-- A request has assignments exactly if it is valid: one for each topology requested, whose text
    reads as that topology with just the builds requested for it, in their order. -/
theorem Request.assignments_read_back (r : Request) :
    ((∃ vs, r.assignments = .ok vs) ↔ r.Valid) ∧
      ∀ vs, r.assignments = .ok vs →
        List.Forall₂ (fun (entry : Topology × List Int64) v =>
          ∃ w, Assignment.ofText v.text = .ok w ∧ w.topology = entry.1 ∧
            w.ids.map (·.value) = entry.2) r.entries vs := by
  refine ⟨exists_assignments_iff, ?_⟩
  intro vs hvs
  obtain ⟨builds, ⟨hlist, hne, hnodup⟩, rfl⟩ := assignments_eq_ok.1 hvs
  have hread : Assignment.ofText (Assignment.text ⟨.defaultX64, builds⟩) = .ok ⟨.defaultX64, builds⟩ :=
    Assignment.ofText_text hne hnodup
  rw [entries_of_get? hlist]
  exact .cons ⟨_, hread, rfl, rfl⟩ .nil

end Sandbox
