-- SUMMARY: What a start and a stop yield, and which calls they make, whatever the tool answers.
import Sandbox.Proofs.Deployment.Script

/-!
# Outcomes

An activity either is refused before the first call, or ends at the first call
that fails, or makes all its calls. Which of these it was can be told from its
error: refusals are errors of validation, failed calls are failures of the tool,
and any other error is a fault of the outputs.
-/

namespace Sandbox

-- ---------------------------------------------------------------------------
-- Kinds of errors
-- ---------------------------------------------------------------------------

/-- The error is one that only the tool itself reports. -/
def Error.IsBare : Error → Prop
  | .command _ => True
  | .json _ => True
  | .system _ => True
  | _ => False

theorem Error.OfOutputs.kind {e : Error} (h : e.OfOutputs) :
    e.isValidation = false ∧ e.isToolFailure = false ∧ ¬ e.IsBare := by
  obtain ⟨_, _, _, rfl⟩ | ⟨_, rfl⟩ := h <;> exact ⟨rfl, rfl, id⟩

namespace Deployment

-- ---------------------------------------------------------------------------
-- Outcomes of scripts
-- ---------------------------------------------------------------------------

/-- How the run of an activity relates to its script and to the answers of the tool. -/
structure Outcome {α : Type} (a : Answers) (script : Script) (finished : Except Error α → Prop)
    (run : Logged Call (Except Error α)) : Prop where
  /-- The calls made are those of the script up to some point. -/
  calls : run.log <+: script.calls
  /-- The error is one of validation if and only if no call was made. -/
  validation : (∃ e, run.value = .error e ∧ e.isValidation) ↔ run.log = []
  /-- The error is a failure of the tool if and only if a call failed. -/
  toolFailure : (∃ e, run.value = .error e ∧ e.isToolFailure) ↔
    ∃ call ∈ run.log, ∃ e, a.answer call = .error e
  /-- A call that failed is the last one and the only one. Its stage and the message of the
      tool's error are reported. -/
  failure : ∀ call ∈ run.log, ∀ e, a.answer call = .error e →
    (∃ before, run.log = before ++ [call] ∧ ∀ earlier ∈ before, a.answer earlier = .ok ()) ∧
      ∃ stage, (stage, call) ∈ script ∧ run.value = .error (.tool stage e.message)
  /-- If calls were made and none failed, then all were made. -/
  success : run.log ≠ [] → (∀ call ∈ run.log, a.answer call = .ok ()) →
    run.log = script.calls ∧ finished run.value
  /-- The tool's own errors are never passed on as they are. -/
  wrapped : ∀ e, run.value = .error e → ¬ e.IsBare

namespace Outcome

variable {α : Type} {a : Answers} {script : Script} {finished : Except Error α → Prop}

/-- Following a script is an outcome of it, if what it ends with is a fault of the outputs at
    worst. -/
theorem of_follow {finish : Except Error α} (hne : script ≠ [])
    (hfinish : (∀ call ∈ script.calls, a.answer call = .ok ()) →
      finished finish ∧ ∀ e, finish = .error e → e.OfOutputs) :
    Outcome a script finished (a.follow finish script) := by
  have hlog : (a.follow finish script).log ≠ [] := Answers.follow_log_ne_nil hne
  obtain ⟨hok, hfollow⟩ | ⟨before, stage, call, after, e, hscript, hok, herror, hfollow⟩ :=
    Answers.follow_cases a finish script
  · obtain ⟨hfinished, houtputs⟩ := hfinish hok
    rw [hfollow] at hlog ⊢
    refine ⟨List.prefix_refl script.calls, ?_, ?_, ?_, fun _ _ => ⟨rfl, hfinished⟩,
      fun e he => (houtputs e he).kind.2.2⟩
    · refine iff_of_false ?_ hlog
      rintro ⟨e, he, hvalidation⟩
      simp [(houtputs e he).kind.1] at hvalidation
    · refine iff_of_false ?_ ?_
      · rintro ⟨e, he, htool⟩
        simp [(houtputs e he).kind.2.1] at htool
      · rintro ⟨call, hcall, e, he⟩
        rw [hok call hcall] at he
        cases he
    · intro call hcall e he
      rw [hok call hcall] at he
      cases he
  · have hinitial : (a.follow finish script).log <+: script.calls :=
      Answers.follow_log_isPrefix script
    rw [hfollow] at hlog hinitial ⊢
    have hlast : call ∈ Script.calls before ++ [call] := by simp
    refine ⟨hinitial, iff_of_false ?_ hlog, iff_of_true ⟨_, rfl, rfl⟩ ⟨call, hlast, e, herror⟩, ?_,
      fun _ hall => ?_, ?_⟩
    · rintro ⟨e', he, hvalidation⟩
      obtain rfl := Except.error.inj he
      cases hvalidation
    · intro call' hcall' e' he'
      cases List.mem_append.1 hcall' with
      | inl hbefore =>
        rw [hok call' hbefore] at he'
        cases he'
      | inr hcall =>
        obtain rfl := List.mem_singleton.1 hcall
        obtain rfl : e = e' := Except.error.inj (herror.symm.trans he')
        exact ⟨⟨_, rfl, hok⟩, stage, by simp [hscript], rfl⟩
    · rw [hall call hlast] at herror
      cases herror
    · intro e' he
      obtain rfl := Except.error.inj he
      exact id

end Outcome

-- ---------------------------------------------------------------------------
-- Outcomes of starting and stopping
-- ---------------------------------------------------------------------------

/-- What a start with no failed call yields: the instances of the request in what the tool
    reports. -/
def Assembled (a : Answers) (r : Request) (result : Except Error Instances) : Prop :=
  ∃ outputs, a.output = .ok outputs ∧ result = r.assemble outputs

theorem of_follow_start {c : Configuration} {a : Answers} {r : Request} :
    Outcome a (startScript c r) (Assembled a r)
      (a.follow (a.output >>= r.assemble) (startScript c r)) := by
  refine Outcome.of_follow (by simp [startScript]) fun hok => ?_
  have houtput : a.answer .output = .ok () := hok _ (by simp [startScript, Script.calls])
  cases hreport : a.output with
  | error e => simp [Answers.answer, hreport, Except.map] at houtput
  | ok outputs => exact ⟨⟨outputs, hreport, rfl⟩, fun e he => Request.assemble_eq_error he⟩

theorem of_follow_stop {c : Configuration} {a : Answers} :
    Outcome a (stopScript c) (· = .ok ()) (a.follow (.ok ()) (stopScript c)) :=
  Outcome.of_follow (by simp [stopScript]) fun _ => ⟨rfl, nofun⟩

end Deployment
end Sandbox
