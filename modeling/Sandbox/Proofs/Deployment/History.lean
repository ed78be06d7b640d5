-- SUMMARY: Runs of a deployment: what every recorded call of a run is preceded by and stands for.
import Sandbox.Proofs.Assignment
import Sandbox.Proofs.Deployment.Script

/-!
# Histories

A run carries out activities one after the other while the tool answers as it
likes. Its history lists the calls of all steps. Nothing but a stop removes all
sandboxes, a start declares exactly the builds requested, and no call is made
before the one it relies on has succeeded in the same step.
-/

namespace Sandbox.Deployment

-- ---------------------------------------------------------------------------
-- Runs
-- ---------------------------------------------------------------------------

/-- What a deployment is asked to do. -/
inductive Activity
  | start (request : Request)
  | stopAll

def Activity.script (c : Configuration) : Activity → Script
  | .start r => startScript c r
  | .stopAll => stopScript c

/-- One step of a run: an activity, and what the tool answers meanwhile. -/
structure Step where
  activity : Activity
  answers : Answers

/-- A call in the history of a run. -/
structure Event where
  /-- The number of the step that made the call. -/
  number : Nat
  step : Step
  call : Call

def Event.Succeeded (e : Event) : Prop := e.step.answers.answer e.call = .ok ()

namespace Step

/-- The calls of one step. -/
def calls (c : Configuration) (s : Step) : List Call :=
  match s.activity with
  | .start r => (startRun c s.answers r).log
  | .stopAll => (stopRun c s.answers).log

/-- The step does not pass the checks. -/
def Refused (c : Configuration) (s : Step) : Prop :=
  ¬ c.Valid ∨ ∃ r, s.activity = .start r ∧ ¬ r.Valid

end Step

/-- The calls of a run whose first step has the number `n`. -/
def history (c : Configuration) (n : Nat) : List Step → List Event
  | [] => []
  | s :: rest => (s.calls c).map (Event.mk n s) ++ history c (n + 1) rest

/-- Every event that needs another one before it comes right after one that serves it. -/
def Preceded (needs : Event → Prop) (serves : Event → Event → Prop) (events : List Event) : Prop :=
  ∀ i e, events[i]? = some e → needs e → ∃ j p, i = j + 1 ∧ events[j]? = some p ∧ serves p e

theorem Preceded.append {needs : Event → Prop} {serves : Event → Event → Prop}
    {events more : List Event} (h : Preceded needs serves events)
    (hmore : Preceded needs serves more) : Preceded needs serves (events ++ more) := by
  intro i e he hneeds
  by_cases hi : i < events.length
  · rw [List.getElem?_append_left hi] at he
    obtain ⟨j, p, rfl, hp, hserves⟩ := h i e he hneeds
    exact ⟨j, p, rfl, by rw [List.getElem?_append_left (by omega), hp], hserves⟩
  · rw [List.getElem?_append_right (Nat.not_lt.1 hi)] at he
    obtain ⟨j, p, hj, hp, hserves⟩ := hmore _ e he hneeds
    refine ⟨events.length + j, p, by omega, ?_, hserves⟩
    rw [List.getElem?_append_right (by omega), Nat.add_sub_cancel_left, hp]

-- ---------------------------------------------------------------------------
-- One step
-- ---------------------------------------------------------------------------

namespace Step

variable {c : Configuration} {s : Step}

/-- A step makes no call because it is refused, or else follows its script. -/
theorem calls_cases (c : Configuration) (s : Step) :
    (s.Refused c ∧ s.calls c = []) ∨
      ¬ s.Refused c ∧ s.calls c <+: (s.activity.script c).calls ∧
        ∀ before call next after, s.calls c = before ++ call :: next :: after →
          s.answers.answer call = .ok () := by
  obtain ⟨activity, a⟩ := s
  cases activity with
  | start r =>
    obtain ⟨hr, _, _, hrun⟩ | ⟨_, hc, _, _, hrun⟩ | ⟨hr, hc, hrun⟩ := startRun_cases c a r
    · exact .inl ⟨.inr ⟨r, rfl, hr⟩, congrArg Logged.log hrun⟩
    · exact .inl ⟨.inl hc, congrArg Logged.log hrun⟩
    · have hcalls : calls c ⟨.start r, a⟩ = _ := congrArg Logged.log hrun
      refine .inr ⟨?_, hcalls ▸ Answers.follow_log_isPrefix _, fun before call next after h => ?_⟩
      · rintro (hc' | ⟨_, heq, hr'⟩)
        · exact hc' hc
        · cases heq
          exact hr' hr
      · exact Answers.answer_of_follow_log (hcalls ▸ h)
  | stopAll =>
    obtain ⟨hc, _, _, hrun⟩ | ⟨hc, hrun⟩ := stopRun_cases c a
    · exact .inl ⟨.inl hc, congrArg Logged.log hrun⟩
    · have hcalls : calls c ⟨.stopAll, a⟩ = _ := congrArg Logged.log hrun
      refine .inr ⟨?_, hcalls ▸ Answers.follow_log_isPrefix _, fun before call next after h => ?_⟩
      · rintro (hc' | ⟨_, heq, -⟩)
        · exact hc' hc
        · cases heq
      · exact Answers.answer_of_follow_log (hcalls ▸ h)

theorem calls_eq_nil_of_refused (h : s.Refused c) : s.calls c = [] := by
  obtain ⟨-, hnil⟩ | ⟨hpassed, -⟩ := calls_cases c s
  · exact hnil
  · exact absurd h hpassed

theorem calls_isPrefix (c : Configuration) (s : Step) :
    s.calls c <+: (s.activity.script c).calls := by
  obtain ⟨-, hnil⟩ | ⟨-, hinitial, -⟩ := calls_cases c s
  · exact hnil ▸ List.nil_prefix
  · exact hinitial

theorem script_getElem? {i : Nat} {call : Call} (h : (s.calls c)[i]? = some call) :
    (s.activity.script c).calls[i]? = some call := by
  obtain ⟨after, hafter⟩ := calls_isPrefix c s
  rw [← hafter, List.getElem?_append_left (List.getElem?_eq_some_iff.1 h).1, h]

/-- Right before a call that is not the first stands the one before it in the script, and it
    succeeded. -/
theorem calls_getElem?_pred {j : Nat} {call p : Call} (h : (s.calls c)[j + 1]? = some call)
    (hp : (s.activity.script c).calls[j]? = some p) :
    (s.calls c)[j]? = some p ∧ s.answers.answer p = .ok () := by
  obtain ⟨hlt, hcall⟩ := List.getElem?_eq_some_iff.1 h
  have hj : (s.calls c)[j]? = some (s.calls c)[j] := List.getElem?_eq_getElem (by omega)
  obtain rfl : p = (s.calls c)[j] := Option.some.inj (hp.symm.trans (script_getElem? hj))
  refine ⟨hj, ?_⟩
  obtain ⟨-, hnil⟩ | ⟨-, -, hanswer⟩ := calls_cases c s
  · simp [hnil] at hlt
  · refine hanswer ((s.calls c).take j) _ call ((s.calls c).drop (j + 2)) ?_
    rw [← hcall, ← List.drop_eq_getElem_cons hlt, ← List.drop_eq_getElem_cons (by omega),
      List.take_append_drop]

end Step

/-- In a script an apply comes right after the initialisation of the configured directory. -/
theorem Activity.script_apply {c : Configuration} {activity : Activity} {i : Nat}
    {vs : List String} (h : (activity.script c).calls[i]? = some (.apply vs)) :
    i = 1 ∧ (activity.script c).calls[0]? = some (.init c.directory) := by
  cases activity with
  | start r => match i, h with
    | 1, _ => exact ⟨rfl, rfl⟩
    | 2, h => cases h
    | _ + 3, h => cases h
  | stopAll => match i, h with
    | 1, _ => exact ⟨rfl, rfl⟩
    | _ + 2, h => cases h

/-- In a script an output comes right after the apply of a start. -/
theorem Activity.script_output {c : Configuration} {activity : Activity} {i : Nat}
    (h : (activity.script c).calls[i]? = some .output) :
    i = 2 ∧ ∃ r, activity = .start r ∧
      (activity.script c).calls[1]? = some (.apply r.assignmentTexts) := by
  cases activity with
  | start r => match i, h with
    | 2, _ => exact ⟨rfl, r, rfl, rfl⟩
  | stopAll => match i, h with
    | _ + 2, h => cases h

namespace Step

variable {c : Configuration}

/-- What serves an apply: the initialisation of the configured directory, in the same step. -/
def ServesApply (c : Configuration) (p e : Event) : Prop :=
  p.number = e.number ∧ p.call = .init c.directory ∧ p.Succeeded

/-- What serves an output: the apply of a start, in the same step. -/
def ServesOutput (p e : Event) : Prop :=
  p.number = e.number ∧ (∃ vs, p.call = .apply vs) ∧ (∃ r, p.step.activity = .start r) ∧
    p.Succeeded

theorem preceded_apply (c : Configuration) (n : Nat) (s : Step) :
    Preceded (fun e => ∃ vs, e.call = .apply vs) (ServesApply c)
      ((s.calls c).map (Event.mk n s)) := by
  rintro i e he ⟨vs, hvs⟩
  rw [List.getElem?_map, Option.map_eq_some_iff] at he
  obtain ⟨call, hcall, rfl⟩ := he
  obtain rfl : call = .apply vs := hvs
  obtain ⟨rfl, hinit⟩ := Activity.script_apply (script_getElem? hcall)
  obtain ⟨hp, hok⟩ := calls_getElem?_pred hcall hinit
  exact ⟨0, ⟨n, s, .init c.directory⟩, rfl, by rw [List.getElem?_map, hp]; rfl, rfl, rfl, hok⟩

theorem preceded_output (c : Configuration) (n : Nat) (s : Step) :
    Preceded (·.call = .output) ServesOutput ((s.calls c).map (Event.mk n s)) := by
  intro i e he houtput
  rw [List.getElem?_map, Option.map_eq_some_iff] at he
  obtain ⟨call, hcall, rfl⟩ := he
  obtain rfl : call = .output := houtput
  obtain ⟨rfl, r, hstart, happly⟩ := Activity.script_output (script_getElem? hcall)
  obtain ⟨hp, hok⟩ := calls_getElem?_pred hcall happly
  exact ⟨1, ⟨n, s, .apply r.assignmentTexts⟩, rfl, by rw [List.getElem?_map, hp]; rfl, rfl,
    ⟨_, rfl⟩, ⟨r, hstart⟩, hok⟩

/-- An apply of a start declares the builds of its request and nothing else. -/
theorem apply_of_start {s : Step} {r : Request} {vs : List String} (hstart : s.activity = .start r)
    (h : .apply vs ∈ s.calls c) :
    ∃ builds, r.Asks builds ∧ vs = [Assignment.text ⟨.defaultX64, builds⟩] := by
  have hvs : vs = r.assignmentTexts := by
    have hmem := (calls_isPrefix c s).subset h
    rw [hstart] at hmem
    simpa [Activity.script, startScript, Script.calls] using hmem
  have hvalid : r.Valid := by
    by_contra hr
    rw [calls_eq_nil_of_refused (.inr ⟨r, hstart, hr⟩)] at h
    cases h
  obtain ⟨builds, hasks⟩ := Request.valid_iff_exists_asks.1 hvalid
  exact ⟨builds, hasks, hvs.trans hasks.assignmentTexts_eq⟩

end Step

-- ---------------------------------------------------------------------------
-- Whole runs
-- ---------------------------------------------------------------------------

theorem mem_history {c : Configuration} {n : Nat} {steps : List Step} {e : Event}
    (h : e ∈ history c n steps) :
    ∃ k, e.number = n + k ∧ steps[k]? = some e.step ∧ e.call ∈ e.step.calls c := by
  induction steps generalizing n with
  | nil => cases h
  | cons s steps ih =>
    cases List.mem_append.1 h with
    | inl hmem =>
      obtain ⟨call, hcall, rfl⟩ := List.mem_map.1 hmem
      exact ⟨0, rfl, rfl, hcall⟩
    | inr hmem =>
      obtain ⟨k, hk, hstep, hcall⟩ := ih hmem
      exact ⟨k + 1, by omega, hstep, hcall⟩

theorem preceded_history {c : Configuration} {needs : Event → Prop}
    {serves : Event → Event → Prop}
    (hstep : ∀ n s, Preceded needs serves ((Step.calls c s).map (Event.mk n s)))
    (n : Nat) (steps : List Step) : Preceded needs serves (history c n steps) := by
  induction steps generalizing n with
  | nil => exact fun _ _ he => by cases he
  | cons s steps ih => exact (hstep n s).append (ih (n + 1))

/-- What holds of the history of every run. -/
structure Lawful (c : Configuration) (steps : List Step) (events : List Event) : Prop where
  /-- Every call belongs to its step. -/
  numbered : ∀ e ∈ events, steps[e.number]? = some e.step
  /-- Only a stop applies no assignments. -/
  teardown : ∀ e ∈ events, e.call = .apply [] → e.step.activity = .stopAll
  /-- A start applies one assignment, which reads as the builds requested, in order. -/
  deployment : ∀ e ∈ events, ∀ vs r, e.call = .apply vs → e.step.activity = .start r →
    ∃ v builds, vs = [v] ∧ Assignment.ofText v = .ok ⟨.defaultX64, builds⟩ ∧
      r.lists.get? .defaultX64 = some (builds.map (·.value))
  /-- Right before an apply the configured directory was initialised in the same step. -/
  applied : Preceded (fun e => ∃ vs, e.call = .apply vs) (Step.ServesApply c) events
  /-- Right before an output a start succeeded to apply in the same step. -/
  reported : Preceded (·.call = .output) Step.ServesOutput events
  /-- A step that does not pass the checks makes no call. -/
  silent : ∀ n s, steps[n]? = some s → s.Refused c → ∀ e ∈ events, e.number ≠ n

/-- The history of every run is lawful, whatever fails in it. -/
theorem lawful_history (c : Configuration) (steps : List Step) :
    Lawful c steps (history c 0 steps) where
  numbered := by
    intro e he
    obtain ⟨k, hk, hstep, -⟩ := mem_history he
    rwa [hk, Nat.zero_add]
  teardown := by
    intro e he hcall
    obtain ⟨k, -, -, hmem⟩ := mem_history he
    rw [hcall] at hmem
    cases hactivity : e.step.activity with
    | stopAll => rfl
    | start r =>
      obtain ⟨builds, -, hvs⟩ := Step.apply_of_start hactivity hmem
      cases hvs
  deployment := by
    intro e he vs r hcall hstart
    obtain ⟨k, -, -, hmem⟩ := mem_history he
    rw [hcall] at hmem
    obtain ⟨builds, ⟨hids, hne, hnodup⟩, rfl⟩ := Step.apply_of_start hstart hmem
    exact ⟨_, builds, rfl, Assignment.ofText_text hne hnodup, hids⟩
  applied := preceded_history (Step.preceded_apply c) 0 steps
  reported := preceded_history (Step.preceded_output c) 0 steps
  silent := by
    rintro n s hs hrefused e he rfl
    obtain ⟨k, hk, hstep, hmem⟩ := mem_history he
    rw [hk, Nat.zero_add, hstep] at hs
    obtain rfl := Option.some.inj hs
    rw [Step.calls_eq_nil_of_refused hrefused] at hmem
    cases hmem

end Sandbox.Deployment
