-- SUMMARY: Starting and stopping as scripts of calls that end at the first failure.
import Sandbox.Deployment
import Sandbox.Proofs.Assembly
import Sandbox.Tool.Recorded

/-!
# Scripts of calls

An activity that passes its checks follows a script: calls to the tool, each at
its stage, that are made one after the other until one fails. What an activity
yields and which calls it makes is settled by the checks, the script and the
answers of the tool.
-/

namespace Sandbox

open Checks

-- ---------------------------------------------------------------------------
-- Following a script
-- ---------------------------------------------------------------------------

/-- How a tool answers a call, apart from what it reports. -/
def Answers.answer (a : Answers) : Call → Except Error Unit
  | .init directory => a.init directory
  | .apply assignments => a.apply assignments
  | .output => a.output.map fun _ => ()

/-- The calls of an activity in order, each with its stage. -/
abbrev Script := List (Stage × Call)

def Script.calls (script : Script) : List Call := script.map (·.2)

/-- Makes the calls of a script. The first failure ends it, and its stage and message are the
    result; if there is none, the result is `finish`. -/
def Answers.follow {α : Type} (a : Answers) (finish : Except Error α) :
    Script → Logged Call (Except Error α)
  | [] => ⟨finish, []⟩
  | (stage, call) :: rest =>
    match a.answer call with
    | .error e => ⟨.error (.tool stage e.message), [call]⟩
    | .ok () => ⟨(a.follow finish rest).value, call :: (a.follow finish rest).log⟩

namespace Answers

variable {α : Type} {a : Answers} {finish : Except Error α}

/-- Either all calls of a script succeed, or it ends at the first that does not. -/
theorem follow_cases (a : Answers) (finish : Except Error α) (script : Script) :
    (∀ call ∈ script.calls, a.answer call = .ok ()) ∧
        a.follow finish script = ⟨finish, script.calls⟩ ∨
      ∃ before stage call after e, script = before ++ (stage, call) :: after ∧
        (∀ call ∈ Script.calls before, a.answer call = .ok ()) ∧ a.answer call = .error e ∧
        a.follow finish script =
          ⟨.error (.tool stage e.message), Script.calls before ++ [call]⟩ := by
  induction script with
  | nil => exact .inl ⟨by simp [Script.calls], rfl⟩
  | cons planned rest ih =>
    obtain ⟨stage, call⟩ := planned
    cases hcall : a.answer call with
    | error e =>
      exact .inr ⟨[], stage, call, rest, e, rfl, by simp [Script.calls], hcall,
        by simp [follow, hcall, Script.calls]⟩
    | ok _ =>
      obtain ⟨hok, hrest⟩ | ⟨before, stage', call', after, e, rfl, hok, herror, hrest⟩ := ih
      · refine .inl ⟨List.forall_mem_cons.2 ⟨hcall, hok⟩, ?_⟩
        simp [follow, hcall, hrest, Script.calls]
      · refine .inr ⟨(stage, call) :: before, stage', call', after, e, rfl,
          List.forall_mem_cons.2 ⟨hcall, hok⟩, herror, ?_⟩
        simp [follow, hcall, hrest, Script.calls]

/-- If all its calls succeed, a script makes all of them and has the result of `finish`. -/
theorem follow_of_answers {script : Script} (h : ∀ call ∈ script.calls, a.answer call = .ok ()) :
    a.follow finish script = ⟨finish, script.calls⟩ := by
  obtain ⟨-, hfollow⟩ | ⟨before, stage, call, after, e, rfl, -, herror, -⟩ :=
    follow_cases a finish script
  · exact hfollow
  · have hcall := h call (by simp [Script.calls])
    cases herror.symm.trans hcall

theorem follow_value_eq_ok {script : Script} {v : α} :
    (a.follow finish script).value = .ok v ↔
      (∀ call ∈ script.calls, a.answer call = .ok ()) ∧ finish = .ok v := by
  constructor
  · intro h
    obtain ⟨hok, hfollow⟩ | ⟨before, stage, call, after, e, rfl, -, -, hfollow⟩ :=
      follow_cases a finish script
    · rw [hfollow] at h
      exact ⟨hok, h⟩
    · rw [hfollow] at h
      cases h
  · intro h
    rw [follow_of_answers h.1]
    exact h.2

theorem follow_log_isPrefix (script : Script) : (a.follow finish script).log <+: script.calls := by
  obtain ⟨-, h⟩ | ⟨before, stage, call, after, e, rfl, -, -, h⟩ := follow_cases a finish script
  · exact ⟨[], by rw [h, List.append_nil]⟩
  · rw [h]
    exact ⟨Script.calls after, by simp [Script.calls]⟩

theorem follow_log_ne_nil {script : Script} (h : script ≠ []) :
    (a.follow finish script).log ≠ [] := by
  obtain ⟨-, hfollow⟩ | ⟨before, stage, call, after, e, -, -, -, hfollow⟩ :=
    follow_cases a finish script
  · simpa [hfollow, Script.calls] using h
  · simp [hfollow]

/-- A call that has another one behind it succeeded. -/
theorem answer_of_follow_log {script : Script} {before after : List Call} {call next : Call}
    (h : (a.follow finish script).log = before ++ call :: next :: after) :
    a.answer call = .ok () := by
  obtain ⟨hok, hfollow⟩ | ⟨before', stage, call', after', e, -, hok, -, hfollow⟩ :=
    follow_cases a finish script
  · refine hok call ?_
    rw [hfollow] at h
    rw [show script.calls = _ from h]
    simp
  · refine hok call ?_
    rw [hfollow] at h
    -- The calls before the failing one are all but the last of the log.
    have hbefore := congrArg List.dropLast (show Script.calls before' ++ [call'] = _ from h)
    rw [List.dropLast_concat] at hbefore
    rw [hbefore, List.dropLast_append_of_ne_nil (by simp)]
    simp

end Answers

-- ---------------------------------------------------------------------------
-- The scripts of the activities
-- ---------------------------------------------------------------------------

/-- The texts of the assignments of a request; there are none if it is not valid. -/
def Request.assignmentTexts (r : Request) : List String :=
  match r.assignments with
  | .ok vs => vs.map Assignment.text
  | .error _ => []

theorem Request.Asks.assignmentTexts_eq {r : Request} {builds : List BuildId}
    (h : r.Asks builds) : r.assignmentTexts = [Assignment.text ⟨.defaultX64, builds⟩] := by
  rw [assignmentTexts, assignments_eq_ok.2 ⟨builds, h, rfl⟩]
  rfl

/-- Both paths are there. -/
def Configuration.Valid (c : Configuration) : Prop := c.directory ≠ "" ∧ c.program ≠ ""

theorem Configuration.validate_eq_ok {c : Configuration} : c.validate = .ok () ↔ c.Valid := by
  simp only [validate, Valid, SystemText.isEmpty_iff]
  by_cases hdirectory : c.directory = ""
  · simp [hdirectory]
  · by_cases hprogram : c.program = "" <;> simp [hdirectory, hprogram]

namespace Deployment

def startScript (c : Configuration) (r : Request) : Script :=
  [(.init, .init c.directory), (.apply, .apply r.assignmentTexts), (.output, .output)]

def stopScript (c : Configuration) : Script :=
  [(.teardownInit, .init c.directory), (.teardownApply, .apply [])]

/-- A start with a recorded tool. -/
def startRun (c : Configuration) (a : Answers) (r : Request) :
    Logged Call (Except Error Instances) :=
  ((Deployment.mk c a.tool).start r).run

/-- A stop with a recorded tool. -/
def stopRun (c : Configuration) (a : Answers) : Logged Call (Except Error Unit) :=
  (Deployment.mk c a.tool).stopAll.run

theorem tool_init_eq (a : Answers) (directory : SystemText) :
    a.tool.init directory =
      Answers.reply (.init directory) ((a.init directory).map fun _ => a.handle) := by
  show (Answers.reply (.init directory) (a.init directory) >>= fun _ => pure a.handle) = _
  cases h : a.init directory <;> rfl

/-- A call at its stage: its failure ends the activity, and after its success the rest follows. -/
theorem run_atStage_reply {α β : Type} (stage : Stage) (call : Call) (answer : Except Error α)
    (rest : α → ExceptT Error (Logged Call) β) :
    (atStage stage (Answers.reply call answer) >>= rest).run =
      match answer with
      | .error e => ⟨.error (.tool stage e.message), [call]⟩
      | .ok v => ⟨(rest v).run.value, call :: (rest v).run.log⟩ := by
  cases answer <;> rfl

theorem startRun_of_invalid_request {c : Configuration} {a : Answers} {r : Request}
    {fault : RequestFault} (h : r.assignments = .error fault) :
    startRun c a r = ⟨.error (.request fault), []⟩ := by
  rw [startRun, start, h]
  rfl

theorem startRun_of_invalid_configuration {c : Configuration} {a : Answers} {r : Request}
    {vs : List Assignment} {fault : ConfigurationFault} (hvs : r.assignments = .ok vs)
    (h : c.validate = .error fault) : startRun c a r = ⟨.error (.configuration fault), []⟩ := by
  rw [startRun, start, hvs, h]
  rfl

/-- A start that passes its checks follows its script. -/
theorem startRun_eq_follow {c : Configuration} {a : Answers} {r : Request} {vs : List Assignment}
    (hvs : r.assignments = .ok vs) (h : c.validate = .ok ()) :
    startRun c a r = a.follow (a.output >>= r.assemble) (startScript c r) := by
  have htexts : r.assignmentTexts = vs.map Assignment.text := by
    rw [Request.assignmentTexts, hvs]
  have hchecked : startRun c a r =
      (atStage .init (a.tool.init c.directory) >>= fun handle =>
        atStage .apply (handle.apply (vs.map Assignment.text)) >>= fun _ =>
        atStage .output handle.output >>= fun outputs => check (r.assemble outputs) id).run := by
    rw [startRun, start, hvs, h]
    rfl
  rw [hchecked, tool_init_eq, run_atStage_reply, startScript, htexts]
  simp only [Answers.follow, Answers.answer]
  cases a.init c.directory with
  | error e => rfl
  | ok _ =>
    simp only [Except.map, Answers.handle, run_atStage_reply]
    cases a.apply (vs.map Assignment.text) with
    | error e => rfl
    | ok _ =>
      cases a.output with
      | error e => rfl
      | ok outputs =>
        have hid : (r.assemble outputs).mapError id = r.assemble outputs := by
          cases r.assemble outputs <;> rfl
        exact congrArg (Logged.mk · _) hid

theorem stopRun_of_invalid_configuration {c : Configuration} {a : Answers}
    {fault : ConfigurationFault} (h : c.validate = .error fault) :
    stopRun c a = ⟨.error (.configuration fault), []⟩ := by
  rw [stopRun, stopAll, h]
  rfl

theorem stopRun_eq_follow {c : Configuration} {a : Answers} (h : c.validate = .ok ()) :
    stopRun c a = a.follow (.ok ()) (stopScript c) := by
  have hchecked : stopRun c a =
      (atStage .teardownInit (a.tool.init c.directory) >>= fun handle =>
        atStage .teardownApply (handle.apply [])).run := by
    rw [stopRun, stopAll, h]
    rfl
  rw [hchecked, tool_init_eq, run_atStage_reply, stopScript]
  simp only [Answers.follow, Answers.answer]
  cases a.init c.directory with
  | error e => rfl
  | ok _ =>
    simp only [Except.map, Answers.handle]
    cases a.apply [] <;> rfl

-- ---------------------------------------------------------------------------
-- What an activity can do
-- ---------------------------------------------------------------------------

/-- A start is refused for its request, or else for its configuration, or follows its script. -/
theorem startRun_cases (c : Configuration) (a : Answers) (r : Request) :
    (¬ r.Valid ∧ ∃ fault, r.assignments = .error fault ∧
      startRun c a r = ⟨.error (.request fault), []⟩) ∨
    (r.Valid ∧ ¬ c.Valid ∧ ∃ fault, c.validate = .error fault ∧
      startRun c a r = ⟨.error (.configuration fault), []⟩) ∨
    (r.Valid ∧ c.Valid ∧
      startRun c a r = a.follow (a.output >>= r.assemble) (startScript c r)) := by
  rw [← Request.exists_assignments_iff, ← Configuration.validate_eq_ok]
  cases hassignments : r.assignments with
  | error fault => exact .inl ⟨by simp, fault, rfl, startRun_of_invalid_request hassignments⟩
  | ok vs =>
    cases hvalidate : c.validate with
    | error fault =>
      exact .inr (.inl ⟨⟨vs, rfl⟩, by simp, fault, rfl,
        startRun_of_invalid_configuration hassignments hvalidate⟩)
    | ok _ => exact .inr (.inr ⟨⟨vs, rfl⟩, rfl, startRun_eq_follow hassignments hvalidate⟩)

/-- A stop is refused for its configuration or follows its script. -/
theorem stopRun_cases (c : Configuration) (a : Answers) :
    (¬ c.Valid ∧ ∃ fault, c.validate = .error fault ∧
      stopRun c a = ⟨.error (.configuration fault), []⟩) ∨
    (c.Valid ∧ stopRun c a = a.follow (.ok ()) (stopScript c)) := by
  rw [← Configuration.validate_eq_ok]
  cases hvalidate : c.validate with
  | error fault =>
    exact .inl ⟨by simp, fault, rfl, stopRun_of_invalid_configuration hvalidate⟩
  | ok _ => exact .inr ⟨rfl, stopRun_eq_follow hvalidate⟩

end Deployment
end Sandbox
