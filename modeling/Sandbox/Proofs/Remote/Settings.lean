-- SUMMARY: Where the paths and the build of a run come from.
import Sandbox.Proofs.Request
import Sandbox.Proofs.Utf8
import Sandbox.Remote.Settings

/-!
# Chosen settings

Each path is chosen by itself among a flag, a variable of the environment and a
default, and the build among two numbers that both have to be sound.
-/

namespace Sandbox.Remote

/-! ## Paths -/

/-- How a path is chosen: a flag comes before a variable of the environment, which comes before
    the default. A variable that is set to no text, or to the empty one, counts as not set. -/
inductive Chosen (flag value : Option SystemText) (default : SystemText) : SystemText → Prop
  | flag {path : SystemText} : flag = some path → Chosen flag value default path
  | environment {path : String} : flag = none → value = some ↑path → path ≠ "" →
      Chosen flag value default path
  | default : flag = none → (∀ path : String, value = some ↑path → path = "") →
      Chosen flag value default default

namespace Chosen

variable {flag value : Option SystemText} {default path path' : SystemText}

theorem ne_empty (h : Chosen flag value default path) (hflag : flag ≠ some ↑"")
    (hdefault : default ≠ "") : path ≠ "" := by
  cases h with
  | flag hpath =>
    intro hempty
    exact hflag (hempty ▸ hpath)
  | environment _ _ hne => exact fun hempty => hne (SystemText.ofString_injective hempty)
  | default => exact hdefault

/-- One path only is chosen. -/
theorem unique (h : Chosen flag value default path) (h' : Chosen flag value default path') :
    path = path' := by
  cases h with
  | flag hpath =>
    cases h' with
    | flag hpath' => exact Option.some.inj (hpath.symm.trans hpath')
    | environment hnone | default hnone => cases hpath.symm.trans hnone
  | environment hnone hvalue hne =>
    cases h' with
    | flag hpath => cases hnone.symm.trans hpath
    | environment _ hvalue' => exact Option.some.inj (hvalue.symm.trans hvalue')
    | default _ hempty => exact absurd (hempty _ hvalue) hne
  | default hnone hempty =>
    cases h' with
    | flag hpath => cases hnone.symm.trans hpath
    | environment _ hvalue hne => exact absurd (hempty _ hvalue) hne
    | default => rfl

end Chosen

theorem Environment.text?_eq_some_iff {env : Environment} {name text : String} :
    env.text? name = some text ↔ env.value? name = some ↑text := by
  unfold text?
  cases env.value? name with
  | none => simp
  | some value => simpa using SystemText.text?_eq_some_iff

theorem Settings.chosen (env : Environment) (name : String) (default : SystemText)
    (flag : Option SystemText) :
    Chosen flag (env.value? name) default (flag.getD ((nonempty env name).getD default)) := by
  cases flag with
  | some path => exact .flag rfl
  | none =>
    unfold nonempty
    cases hvariable : env.text? name with
    | none =>
      refine .default rfl fun path hvalue => ?_
      rw [← Environment.text?_eq_some_iff, hvariable] at hvalue
      cases hvalue
    | some path =>
      have hvalue := Environment.text?_eq_some_iff.1 hvariable
      by_cases hempty : path = ""
      · subst hempty
        refine .default rfl fun path' hvalue' => ?_
        exact SystemText.ofString_injective (Option.some.inj (hvalue'.symm.trans hvalue))
      · rw [Option.filter_some_pos (by simpa using hempty)]
        exact .environment rfl hvalue hempty

/-! ## The build to start -/

namespace Selection

/-- Both numbers are sound, and the build is the one to override with, unless that is zero. -/
structure Picks (s : Selection) (id : BuildId) : Prop where
  buildId : 1 ≤ s.buildId
  override : 0 ≤ s.override
  value : id.value = if s.override ≠ 0 then s.override else s.buildId

theorem one_le_iff {n : Int64} : 1 ≤ n ↔ ¬ n ≤ 0 := by
  rw [Int64.le_iff_toInt_le, Int64.le_iff_toInt_le, Int64.toInt_zero, Int64.toInt_one]
  omega

/-- A selection resolves to a build if and only if it picks that build. -/
theorem resolve_eq_ok {s : Selection} {id : BuildId} : s.resolve = .ok id ↔ s.Picks id := by
  unfold resolve
  constructor
  · intro h
    split at h
    · cases h
    · next hbuildId =>
      split at h
      · cases h
      · next hoverride =>
        dsimp only at h
        split at h
        · next build hbuild =>
          cases h
          exact ⟨one_le_iff.2 hbuildId, Int64.not_lt.1 hoverride,
            BuildId.ofInt64?_eq_some_iff.1 hbuild⟩
        · cases h
  · intro h
    rw [if_neg (one_le_iff.1 h.buildId), if_neg (Int64.not_lt.2 h.override)]
    dsimp only
    rw [BuildId.ofInt64?_eq_some_iff.2 h.value]

theorem Picks.unique {s : Selection} {id id' : BuildId} (h : s.Picks id) (h' : s.Picks id') :
    id = id' := BuildId.value_injective (h.value.trans h'.value.symm)

/-- A selection picks a build if and only if both numbers are sound. -/
theorem exists_picks_iff {s : Selection} : (∃ id, s.Picks id) ↔ 1 ≤ s.buildId ∧ 0 ≤ s.override := by
  constructor
  · intro h
    obtain ⟨id, hid⟩ := h
    exact ⟨hid.buildId, hid.override⟩
  · intro h
    obtain ⟨hbuildId, hoverride⟩ := h
    by_cases hzero : s.override ≠ 0
    · have hpositive : 1 ≤ s.override :=
        one_le_iff.2 fun hle => hzero (Int64.le_antisymm hle hoverride)
      exact ⟨⟨s.override, hpositive⟩, hbuildId, hoverride, (if_pos hzero).symm⟩
    · exact ⟨⟨s.buildId, hbuildId⟩, hbuildId, hoverride, (if_neg hzero).symm⟩

end Selection
end Sandbox.Remote
