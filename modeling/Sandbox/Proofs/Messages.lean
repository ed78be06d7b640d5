-- SUMMARY: What the messages of faults name.
import Mathlib.Data.List.Basic
import Sandbox.Error
import Sandbox.Topology.Bindings

/-!
# Messages

A message shows, among its own words, all that the fault is about. Names are shown
between quotes, which leaves visible ASCII characters as they are.
-/

namespace Sandbox

/-! ## Parts of texts -/

/-- A text is a part of another one. -/
def Text.Within (part s : String) : Prop := ∃ before after, s = before ++ part ++ after

namespace Text.Within

variable {part s : String}

theorem refl (s : String) : Within s s := ⟨"", "", by simp⟩

theorem append_left (h : Within part s) (before : String) : Within part (before ++ s) := by
  obtain ⟨before', after, rfl⟩ := h
  exact ⟨before ++ before', after, by simp only [String.append_assoc]⟩

theorem append_right (h : Within part s) (after : String) : Within part (s ++ after) := by
  obtain ⟨before, after', rfl⟩ := h
  exact ⟨before, after' ++ after, by simp only [String.append_assoc]⟩

theorem middle (before part after : String) : Within part (before ++ part ++ after) :=
  ⟨before, after, rfl⟩

theorem trans {middle : String} (h : Within part middle) (h' : Within middle s) :
    Within part s := by
  obtain ⟨before, after, rfl⟩ := h'
  exact (h.append_left before).append_right after

end Text.Within

/-! ## Quoted texts -/

namespace Text

/-- A visible ASCII character with no meaning inside quotes. -/
def Plain (c : Char) : Prop := 0x20 ≤ c.toNat ∧ c.toNat < 0x7F ∧ c ≠ '"' ∧ c ≠ '\\'

instance (c : Char) : Decidable (Plain c) := inferInstanceAs (Decidable (_ ∧ _))

theorem quoteChar_of_plain {c : Char} (h : Plain c) : quoteChar c = [c] := by
  obtain ⟨hlow, hhigh, hquote, hbackslash⟩ := h
  have hvisible : isUnprintable c = false := by
    rw [isUnprintable, decide_eq_false (Nat.not_lt.2 hlow), decide_eq_false (Nat.not_le.2 hhigh)]
    rfl
  unfold quoteChar
  split
  · exact absurd rfl hquote
  · exact absurd rfl hbackslash
  -- Line ends, tabulators and the null character are controls.
  iterate 4 exact absurd hlow (by decide)
  · rw [hvisible]
    rfl

theorem quoted_of_plain {s : String} (h : ∀ c ∈ s.toList, Plain c) :
    quoted s = "\"" ++ s ++ "\"" := by
  have hchars : s.toList.flatMap quoteChar = s.toList := by
    rw [List.flatMap_congr fun c hc => quoteChar_of_plain (h c hc), List.flatMap_singleton']
  rw [← String.toList_inj, quoted, hchars]
  simp

theorem plain_ofList {cs : List Char} (h : cs.all (Plain ·) = true) :
    ∀ c ∈ (String.ofList cs).toList, Plain c := by
  intro c hc
  rw [String.toList_ofList] at hc
  exact of_decide_eq_true (List.all_eq_true.1 h c hc)

theorem Within.quoted_of_plain {s : String} (h : ∀ c ∈ s.toList, Plain c) :
    Within s (quoted s) := by
  rw [Text.quoted_of_plain h]
  exact middle _ s _

end Text

/-! ## Assembly -/

/-- What a fault is about, as messages write it. -/
def AssemblyFault.subjects : AssemblyFault → List String
  | .buildIdBelowMinimum id => [toString id]
  | .unsupportedTopology topology => [toString topology]
  | .missingOutput output => [Text.quoted output]
  | .missingInstance id output _ => [toString id, Text.quoted output]
  | .wrongCount id output _ _ => [toString id, Text.quoted output]
  | .noMachine topology role index => [toString topology, toString role, toString index]
  | _ => []

open Text in
/-- A message names all that the fault is about. -/
theorem AssemblyFault.within_message {fault : AssemblyFault} {subject : String}
    (h : subject ∈ fault.subjects) : Within subject fault.message := by
  cases fault with
  | buildIdBelowMinimum id =>
    obtain rfl := List.mem_singleton.1 h
    exact ((Within.middle "build ID " _ _).append_right _).append_left _
  | unsupportedTopology topology =>
    obtain rfl := List.mem_singleton.1 h
    exact (Within.refl _).append_left _
  | missingOutput output =>
    obtain rfl := List.mem_singleton.1 h
    exact (Within.refl _).append_left _
  | missingInstance id output book =>
    rcases List.mem_pair.1 h with rfl | rfl
    · exact (((Within.middle _ _ _).append_right _).append_right _).append_right _
    · exact (Within.middle _ _ _).append_right _
  | wrongCount id output wanted addresses =>
    rcases List.mem_pair.1 h with rfl | rfl
    · exact (Within.middle _ _ _).append_right _
    · exact ((((Within.middle "variable " _ _).append_right _).append_right _).append_right
        _).append_left _
  | noMachine topology role index =>
    rcases List.mem_cons.1 h with rfl | h
    · exact (((Within.middle "sandbox type " _ _).append_right _).append_right _).append_right _
    · rcases List.mem_pair.1 h with rfl | rfl
      · exact (Within.middle _ _ _).append_right _
      · exact (Within.refl _).append_left _
  | _ => cases h

/-- The output that a fault is about. -/
def AssemblyFault.output? : AssemblyFault → Option String
  | .missingOutput output => some output
  | .missingInstance _ output _ => some output
  | .wrongCount _ output _ _ => some output
  | _ => none

theorem AssemblyFault.quoted_mem_subjects {fault : AssemblyFault} {output : String}
    (h : fault.output? = some output) : Text.quoted output ∈ fault.subjects := by
  cases fault with
  | missingOutput | missingInstance | wrongCount =>
    cases h
    simp [subjects]
  | _ => cases h

theorem Topology.plain_of_mem_output (t : Topology) :
    ∀ b ∈ t.bindings, ∀ c ∈ b.output.toList, Text.Plain c := by
  cases t
  simp only [bindings, List.forall_mem_cons]
  -- A literal is compared with its list of characters, which is cheaper than reading it.
  refine ⟨Text.plain_ofList ?_, Text.plain_ofList ?_, Text.plain_ofList ?_,
    Text.plain_ofList ?_, Text.plain_ofList ?_, Text.plain_ofList ?_, List.forall_mem_nil _⟩
  all_goals decide

/-- A bound output is named letter by letter. -/
theorem AssemblyFault.within_message_of_mem_bindings {fault : AssemblyFault} {t : Topology}
    {b : Binding} (hb : b ∈ t.bindings) (h : fault.output? = some b.output) :
    Text.Within b.output fault.message :=
  (Text.Within.quoted_of_plain (t.plain_of_mem_output b hb)).trans
    (within_message (quoted_mem_subjects h))

/-! ## Requests -/

/-- What a fault is about, as messages write it. -/
def RequestFault.subjects : RequestFault → List String
  | .noTopology => []
  | .unsupportedTopology name => [Text.quoted name]
  | .buildIdBelowMinimum id => [toString id]
  | .noInstances topology => [toString topology]
  | .instanceBelowMinimum topology id => [toString topology, toString id]
  | .duplicateInstance topology id => [toString topology, toString id]
  | .malformedAssignment text fault => [Text.quoted text, fault.message]
  | .described text => [text]

open Text in
/-- A message names all that the fault is about. -/
theorem RequestFault.within_message {fault : RequestFault} {subject : String}
    (h : subject ∈ fault.subjects) : Within subject fault.message := by
  cases fault with
  | noTopology => cases h
  | unsupportedTopology name =>
    obtain rfl := List.mem_singleton.1 h
    exact (Within.refl _).append_left _
  | buildIdBelowMinimum id =>
    obtain rfl := List.mem_singleton.1 h
    exact (Within.middle "build ID " _ _).append_right _
  | noInstances topology =>
    obtain rfl := List.mem_singleton.1 h
    exact Within.middle "sandbox type " _ _
  | instanceBelowMinimum topology id =>
    rcases List.mem_pair.1 h with rfl | rfl
    · exact (((Within.middle "sandbox type " _ _).append_right _).append_right _).append_right _
    · exact (Within.middle _ _ _).append_right _
  | duplicateInstance topology id =>
    rcases List.mem_pair.1 h with rfl | rfl
    · exact (Within.middle "sandbox type " _ _).append_right _
    · exact (Within.refl _).append_left _
  | malformedAssignment text fault =>
    rcases List.mem_pair.1 h with rfl | rfl
    · exact (Within.middle "malformed variable " _ _).append_right _
    · exact (Within.refl _).append_left _
  | described text =>
    obtain rfl := List.mem_singleton.1 h
    exact Within.refl _

end Sandbox
