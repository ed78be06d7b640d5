-- SUMMARY: The paths that a command line gives are not empty.
import Sandbox.Proofs.Checks
import Sandbox.Remote.CommandLine

/-!
# Paths on the command line

Reading refuses an empty path at the word that gives it. So whatever word comes
next, the paths read so far are not empty, and those of an order are not either.
-/

namespace Sandbox.Remote

open Checks

/-! ## Paths read so far -/

/-- The empty path is not among the paths. -/
def PathFlags.Proper (paths : PathFlags) : Prop :=
  paths.directory ≠ some ↑"" ∧ paths.program ≠ some ↑""

theorem PathFlags.Proper.over {inner outer : PathFlags} (hinner : inner.Proper)
    (houter : outer.Proper) : (inner.over outer).Proper := by
  have hchoice : ∀ {a b : Option SystemText}, a ≠ some ↑"" → b ≠ some ↑"" →
      (a <|> b) ≠ some ↑"" := by
    intro a b ha hb
    cases a with
    | none => exact hb
    | some path => exact ha
  exact ⟨hchoice hinner.1 houter.1, hchoice hinner.2 houter.2⟩

namespace Reading

/-- No empty path has been read. -/
def Proper (r : Reading) : Prop := r.outer.Proper ∧ r.inner.Proper

theorem once_eq_ok {α : Type} {flag : Flag} {old given : Option α} {new : α}
    (h : once flag old new = .ok given) : given = some new := by
  unfold once at h
  split at h
  · cases h
  · exact (Except.ok.inj h).symm

theorem proper_of_assignPath {paths paths' : PathFlags} {flag : Flag} {value : SystemText}
    (hpaths : paths.Proper) (h : assignPath paths flag value = .ok paths') : paths'.Proper := by
  have hvalue : ∀ {given}, value.isEmpty ≠ true → given = some value → given ≠ some ↑"" := by
    intro given hne hgiven hempty
    cases hgiven.symm.trans hempty
    exact hne rfl
  unfold assignPath at h
  split at h
  · cases h
  · next hne =>
    split at h
    · obtain ⟨given, hgiven, hreturn⟩ := bind_eq_ok.1 h
      cases hreturn
      exact ⟨hvalue hne (once_eq_ok hgiven), hpaths.2⟩
    · obtain ⟨given, hgiven, hreturn⟩ := bind_eq_ok.1 h
      cases hreturn
      exact ⟨hpaths.1, hvalue hne (once_eq_ok hgiven)⟩

/-- The paths given on the side of the command where reading stands. -/
def paths (r : Reading) : PathFlags := if r.command = none then r.outer else r.inner

def withPaths (r : Reading) (paths : PathFlags) : Reading :=
  if r.command = none then { r with outer := paths } else { r with inner := paths }

/-- The flag of a path is taken on the side of the command where it stands. -/
theorem assign_path {r : Reading} {flag : Flag} (h : flag.isInteger = false) (value : SystemText) :
    r.assign flag value = (assignPath r.paths flag value).map r.withPaths := by
  unfold assign paths withPaths
  cases r.command <;> cases flag <;> first | rfl | cases h

/-- All that taking a value can do: it sets one of the numbers, or the paths of a side. -/
theorem assign_cases {r r' : Reading} {flag : Flag} {value : SystemText}
    (h : r.assign flag value = .ok r') :
    (∃ n, r' = { r with buildId := n }) ∨ (∃ n, r' = { r with override := n }) ∨
      ∃ paths, assignPath r.paths flag value = .ok paths ∧ r' = r.withPaths paths := by
  cases flag with
  | directory | program =>
    rw [assign_path rfl] at h
    obtain ⟨paths, hpaths, rfl⟩ := map_eq_ok.1 h
    exact .inr (.inr ⟨paths, hpaths, rfl⟩)
  | buildId =>
    obtain ⟨_, -, h⟩ := bind_eq_ok.1 h
    obtain ⟨n, -, hreturn⟩ := bind_eq_ok.1 h
    cases hreturn
    exact .inl ⟨n, rfl⟩
  | override =>
    obtain ⟨_, -, h⟩ := bind_eq_ok.1 h
    obtain ⟨n, -, hreturn⟩ := bind_eq_ok.1 h
    cases hreturn
    exact .inr (.inl ⟨n, rfl⟩)

theorem Proper.paths {r : Reading} (hr : r.Proper) : r.paths.Proper := by
  unfold Reading.paths
  split
  · exact hr.1
  · exact hr.2

theorem Proper.withPaths {r : Reading} (hr : r.Proper) {paths : PathFlags} (h : paths.Proper) :
    (r.withPaths paths).Proper := by
  unfold Reading.withPaths
  split
  · exact ⟨h, hr.2⟩
  · exact ⟨hr.1, h⟩

theorem proper_of_assign {r r' : Reading} {flag : Flag} {value : SystemText} (hr : r.Proper)
    (h : r.assign flag value = .ok r') : r'.Proper := by
  obtain ⟨n, rfl⟩ | ⟨n, rfl⟩ | ⟨paths, hpaths, rfl⟩ := assign_cases h
  · exact hr
  · exact hr
  · exact hr.withPaths (proper_of_assignPath hr.paths hpaths)

theorem proper_of_readLong {r r' : Reading} {word name : SystemText} {value : Option SystemText}
    (hr : r.Proper) (h : r.readLong word name value = .ok r') : r'.Proper := by
  unfold readLong at h
  split at h
  · exact proper_of_assign hr (mapError_eq_ok.1 h)
  · cases h
    exact hr
  · split at h
    · cases h
    · split at h <;> cases h
  · cases h

theorem proper_of_readPlain {r r' : Reading} {word : SystemText} (hr : r.Proper)
    (h : r.readPlain word = .ok r') : r'.Proper := by
  unfold readPlain at h
  split at h
  · cases h
    exact hr
  · split at h
    · cases h
      exact hr
    · cases h
  · cases h

/-- Whatever a word is, no empty path is taken from it. -/
theorem proper_of_step {r r' : Reading} {word : SystemText} (hr : r.Proper)
    (h : r.step word = .ok r') : r'.Proper := by
  unfold step at h
  split at h
  · obtain ⟨topic, -, hreturn⟩ := bind_eq_ok.1 h
    cases hreturn
    exact hr
  · split at h
    · have hvalue : Proper { r with pending := none } := hr
      exact proper_of_assign hvalue (mapError_eq_ok.1 h)
    · cases h
  · split at h
    · cases h
    · split at h
      · cases h
        exact hr
      · exact proper_of_readLong hr h
      · unfold readShort at h
        split at h
        · cases h
        · split at h <;> cases h
      · exact proper_of_readPlain hr h

theorem proper_of_words {words : List SystemText} {r r' : Reading} (hr : r.Proper)
    (h : words.foldlM step r = .ok r') : r'.Proper := by
  induction words generalizing r with
  | nil =>
    cases h
    exact hr
  | cons word words ih =>
    rw [List.foldlM_cons] at h
    obtain ⟨next, hstep, hrest⟩ := bind_eq_ok.1 h
    exact ih (proper_of_step hr hstep) hrest

theorem paths_of_finish {env : Environment} {r : Reading} {order : Order}
    (h : r.finish env = .ok order) : order.paths = r.inner.over r.outer := by
  unfold finish at h
  cases htopic : r.topic.isSome with
  | true =>
    rw [htopic] at h
    cases h
  | false =>
    cases hpending : r.pending with
    | some flag =>
      rw [htopic, hpending] at h
      cases h
    | none =>
      rw [htopic, hpending] at h
      cases hcommand : r.command with
      | none =>
        rw [hcommand] at h
        cases h
      | some command =>
        rw [hcommand] at h
        cases command with
        | start =>
          obtain ⟨selection, -, hreturn⟩ := bind_eq_ok.1 h
          cases hreturn
          rfl
        | stopAll =>
          cases h
          rfl

end Reading

/-- A command line that can be followed gives no empty path. -/
theorem Order.proper_paths {env : Environment} {words : List SystemText} {order : Order}
    (h : Order.ofWords env words = .ok order) : order.paths.Proper := by
  obtain ⟨r, hread, hfinish⟩ := bind_eq_ok.1 h
  have hstart : ({} : Reading).Proper := ⟨⟨nofun, nofun⟩, ⟨nofun, nofun⟩⟩
  have hr : r.Proper := Reading.proper_of_words hstart hread
  rw [Reading.paths_of_finish hfinish]
  exact hr.2.over hr.1

end Sandbox.Remote
