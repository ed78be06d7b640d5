-- SUMMARY: What a failed run prints: the message of its failure, and once more the causes that the message tells already.
import Sandbox.Proofs.Deployment.Outcome
import Sandbox.Proofs.Messages
import Sandbox.Proofs.Remote.Run
import Sandbox.Proofs.Utf8

/-!
# Failed runs

A run fails with what the selection of the build, the start or the stop refuses.
Its message stands on standard error, followed by the causes of the failure. Only
an output that does not decode has any, and its message has told them already.
-/

namespace Sandbox

open Checks

/-! ## Causes -/

open Text in
theorem DecodeFault.within_message_of_mem_causes {fault : DecodeFault} {cause : String}
    (h : cause ∈ fault.causes) : Within cause fault.message := by
  cases fault with
  | malformed complaint =>
    obtain rfl := List.mem_singleton.1 h
    exact (Within.refl _).append_left _
  | invalidKey key fault =>
    obtain rfl := List.mem_singleton.1 h
    exact (Within.refl _).append_left _
  | _ => cases h

open Text in
theorem Error.within_message_of_decode {output raw cause : String} {fault : DecodeFault}
    (h : cause ∈ (Error.decode output raw fault).causes) :
    Within cause (Error.decode output raw fault).message := by
  have hfault : Within fault.message (Error.decode output raw fault).message :=
    (Within.middle ("decoding Terraform output " ++ quoted output ++ ": ") fault.message
      ", raw json: ").append_right _
  rcases List.mem_cons.1 h with rfl | hcause
  · exact hfault
  · exact (DecodeFault.within_message_of_mem_causes hcause).trans hfault

namespace Remote

/-! ## Failures of runs -/

/-- How a command fails: no build can be selected, or the start or the stop returns an error. -/
inductive Fails (host : Host) (c : Configuration) : Command → Failure → Prop
  | selection {s : Selection} {fault : SettingsFault} :
      s.resolve = .error fault → Fails host c (.start s) (.settings fault)
  | start {s : Selection} {id : BuildId} {e : Error} : s.resolve = .ok id →
      ((onHost host c).start (requestFor id)).run.value = .error e →
      Fails host c (.start s) (.sandbox e)
  | stopAll {e : Error} :
      (onHost host c).stopAll.run.value = .error e → Fails host c .stopAll (.sandbox e)

variable {host : Host} {c : Configuration} {failure : Failure}

theorem carryOut_eq_error {command : Command} :
    (carryOut (onHost host c) command).run.value = .error failure ↔
      Fails host c command failure := by
  cases command with
  | start s =>
    cases hs : s.resolve with
    | error fault =>
      rw [carryOut_refused _ hs]
      constructor
      · intro h
        cases h
        exact .selection hs
      · intro h
        cases h with
        | selection hs' => rw [Except.error.inj (hs.symm.trans hs')]
        | start hs' _ => cases hs.symm.trans hs'
    | ok id =>
      rw [carryOut_start (Selection.resolve_eq_ok.1 hs), map_eq_error, mapError_eq_error]
      constructor
      · intro h
        obtain ⟨e, he, rfl⟩ := h
        exact .start hs he
      · intro h
        cases h with
        | selection hs' => cases hs.symm.trans hs'
        | start hs' he =>
          cases hs.symm.trans hs'
          exact ⟨_, he, rfl⟩
  | stopAll =>
    rw [carryOut_stopAll, map_eq_error, mapError_eq_error]
    constructor
    · intro h
      obtain ⟨e, he, rfl⟩ := h
      exact .stopAll he
    · intro h
      cases h with
      | stopAll he => exact ⟨_, he, rfl⟩

/-- A selection is refused for one of its numbers. -/
theorem Selection.causes_of_resolve_eq_error {s : Selection} {fault : SettingsFault}
    (h : s.resolve = .error fault) : fault.causes = [] := by
  unfold resolve at h
  split at h
  · cases h
    rfl
  · next hbuildId =>
    split at h
    · cases h
      rfl
    · next hoverride =>
      obtain ⟨id, hid⟩ := exists_picks_iff.2 ⟨one_le_iff.2 hbuildId, Int64.not_lt.1 hoverride⟩
      dsimp only at h
      rw [BuildId.ofInt64?_eq_some_iff.2 hid.value] at h
      cases h

/-- The tool's own errors are wrapped, so only an output that does not decode has causes. -/
theorem Fails.causes_or_decode {command : Command} (hc : c.Valid)
    (h : Fails host c command failure) :
    failure.causes = [] ∨ ∃ output raw fault, failure = .sandbox (.decode output raw fault) := by
  have hbare : ∀ e : Error, ¬ e.IsBare → e.causes = [] ∨
      ∃ output raw fault, Failure.sandbox e = .sandbox (.decode output raw fault) := by
    intro e he
    cases e with
    | decode output raw fault => exact .inr ⟨output, raw, fault, rfl⟩
    | command fault => exact absurd trivial he
    | json complaint => exact absurd trivial he
    | system fault => exact absurd trivial he
    | _ => exact .inl rfl
  cases h with
  | selection hs => exact .inl (Selection.causes_of_resolve_eq_error hs)
  | start _ he =>
    rw [Deployment.start_on_host, startRun_requestFor hc] at he
    exact hbare _ (Deployment.of_follow_start.wrapped _ he)
  | stopAll he =>
    rw [Deployment.stopAll_on_host,
      Deployment.stopRun_eq_follow (Configuration.validate_eq_ok.2 hc)] at he
    exact hbare _ (Deployment.of_follow_stop.wrapped _ he)

/-! ## What is printed -/

namespace Failure

/-- What is printed behind the message of a failure: what is wrong with an output that does not
    decode, and what is wrong with a key or a text in it. -/
def repetition : Failure → String
  | .sandbox (.decode _ _ (.malformed complaint)) =>
    ": " ++ (DecodeFault.malformed complaint).message ++ ": " ++ complaint
  | .sandbox (.decode _ _ (.invalidKey key fault)) =>
    ": " ++ (DecodeFault.invalidKey key fault).message ++ ": " ++ fault.message
  | .sandbox (.decode _ _ fault) => ": " ++ fault.message
  | _ => ""

theorem repetition_of_decode (output raw : String) (fault : DecodeFault) :
    (Failure.sandbox (.decode output raw fault)).repetition ≠ "" := by
  intro h
  have hlist := congrArg String.toList h
  cases fault <;> simp [repetition] at hlist

theorem report_of_decode (output raw : String) (fault : DecodeFault) :
    let f := Failure.sandbox (.decode output raw fault)
    f.report = f.message ++ f.repetition := by
  cases fault <;>
    simp [report, message, causes, Error.causes, DecodeFault.causes, repetition,
      String.append_assoc]

theorem report_of_causes_eq_nil {f : Failure} (h : f.causes = []) :
    f.report = f.message ∧ f.repetition = "" ∧
      ∀ output raw fault, f ≠ .sandbox (.decode output raw fault) := by
  refine ⟨by rw [report, h, String.intercalate_singleton], ?_, ?_⟩
  · cases f with
    | settings fault => rfl
    | sandbox e =>
      cases e with
      | decode output raw fault => cases h
      | _ => rfl
  · rintro output raw fault rfl
    cases h

end Failure

variable {wording : Wording} {env : Environment} {words : List SystemText} {order : Order}

theorem exitCode_ne_zero_iff (wording : Wording) (host : Host)
    (h : Order.ofWords env words = .ok order) :
    (runOn wording host env words).value.exitCode ≠ 0 ↔
      ∃ failure, Fails host (order.configuration env) order.command failure := by
  rw [runOn_eq wording host h, Ne, Report.exitCode_ofResult, ← exists_error_iff]
  simp only [carryOut_eq_error]

theorem stderr_of_fails (h : Order.ofWords env words = .ok order)
    (hfails : Fails host (order.configuration env) order.command failure) :
    (runOn wording host env words).value.stderr =
      "salvo-remote: " ++ failure.message ++ failure.repetition ++ "\n" := by
  have hc : (order.configuration env).Valid := Order.valid_configuration (Order.proper_paths h)
  have hreport : failure.report = failure.message ++ failure.repetition := by
    rcases hfails.causes_or_decode hc with hcauses | ⟨output, raw, fault, rfl⟩
    · obtain ⟨hmessage, hrepetition, -⟩ := Failure.report_of_causes_eq_nil hcauses
      rw [hmessage, hrepetition, String.append_empty]
    · exact Failure.report_of_decode output raw fault
  rw [runOn_eq wording host h, carryOut_eq_error.2 hfails]
  show "salvo-remote" ++ ": " ++ failure.report ++ "\n" = _
  rw [hreport, ← String.append_assoc]
  rfl

/-- Nothing but the message is printed if and only if nothing is repeated. -/
theorem stderr_eq_message_iff (h : Order.ofWords env words = .ok order)
    (hfails : Fails host (order.configuration env) order.command failure) :
    (runOn wording host env words).value.stderr = "salvo-remote: " ++ failure.message ++ "\n" ↔
      failure.repetition = "" := by
  rw [stderr_of_fails h hfails, String.append_left_inj]
  constructor
  · intro heq
    exact String.append_eq_left_iff.1 heq
  · intro hempty
    rw [hempty, String.append_empty]

/-- A run fails if and only if its command does, and then prints the message of the failure. Behind
    it stands, if an output does not decode, once more what the message has told. -/
theorem failed_run_repeats_causes (wording : Wording) (host : Host)
    (h : Order.ofWords env words = .ok order) :
    ((runOn wording host env words).value.exitCode ≠ 0 ↔
      ∃ failure, Fails host (order.configuration env) order.command failure) ∧
    ∀ failure, Fails host (order.configuration env) order.command failure →
      (runOn wording host env words).value.stderr =
        "salvo-remote: " ++ failure.message ++ failure.repetition ++ "\n" ∧
      ((runOn wording host env words).value.stderr = "salvo-remote: " ++ failure.message ++ "\n" ↔
        ∀ output raw fault, failure ≠ .sandbox (.decode output raw fault)) ∧
      ∀ cause ∈ failure.causes, Text.Within cause failure.message := by
  refine ⟨exitCode_ne_zero_iff wording host h, fun failure hfails => ?_⟩
  have hc : (order.configuration env).Valid := Order.valid_configuration (Order.proper_paths h)
  rw [stderr_eq_message_iff h hfails]
  refine ⟨stderr_of_fails h hfails, ?_⟩
  rcases hfails.causes_or_decode hc with hcauses | ⟨output, raw, fault, rfl⟩
  · obtain ⟨-, hrepetition, hne⟩ := Failure.report_of_causes_eq_nil hcauses
    refine ⟨iff_of_true hrepetition hne, fun cause hcause => ?_⟩
    rw [hcauses] at hcause
    cases hcause
  · exact ⟨iff_of_false (Failure.repetition_of_decode output raw fault) fun hne => hne _ _ _ rfl,
      fun cause hcause => Error.within_message_of_decode hcause⟩

/-! ## An output that does not decode -/

/-- Outputs with an address book for a build that cannot be. -/
def zeroBuildOutputs : String :=
  r#"{"default_sandbox_x64_build_ids_to_load_generator_0_control_vm_subnet_ip_list": "# ++
    r#"{"value": {"0": []}}}"#

def zeroBuildHost : Host :=
  .scripted [("output", ⟨.code 0, Text.Utf8.bytes zeroBuildOutputs, []⟩)]

def zeroBuildFailure : Failure :=
  .sandbox (.decode "default_sandbox_x64_build_ids_to_load_generator_0_control_vm_subnet_ip_list"
    r#"{"0": []}"# (.nonPositiveId 0))

def startFirst : List SystemText := ["start", "--build-id", "1"]

theorem ofWords_startFirst :
    Order.ofWords ∅ startFirst = .ok ⟨{}, .start ⟨1, 0⟩⟩ := by decide

theorem fails_zeroBuild : Fails zeroBuildHost {} (.start ⟨1, 0⟩) zeroBuildFailure :=
  have hid : Selection.resolve ⟨1, 0⟩ = .ok ⟨1, by decide⟩ := by decide
  .start hid (by decide +kernel)

theorem failed_run_repeats_zeroBuild :
    Order.ofWords ∅ startFirst = .ok ⟨{}, .start ⟨1, 0⟩⟩ ∧
    Fails zeroBuildHost {} (.start ⟨1, 0⟩) zeroBuildFailure ∧
    (runOn .silent zeroBuildHost ∅ startFirst).value.stderr =
      "salvo-remote: " ++ zeroBuildFailure.message ++ zeroBuildFailure.repetition ++ "\n" :=
  ⟨ofWords_startFirst, fails_zeroBuild,
    ((failed_run_repeats_causes .silent zeroBuildHost ofWords_startFirst).2 _ fails_zeroBuild).1⟩

/-- It is not so that the message of a failure is all that is printed. -/
theorem not_printed_once :
    ¬ ∀ (wording : Wording) (host : Host) (env : Environment) (words : List SystemText)
      (order : Order) (failure : Failure), Order.ofWords env words = .ok order →
      Fails host (order.configuration env) order.command failure →
      (runOn wording host env words).value.stderr =
        "salvo-remote: " ++ failure.message ++ "\n" := by
  intro h
  have hprinted := h .silent _ _ _ _ _ ofWords_startFirst fails_zeroBuild
  exact Failure.repetition_of_decode _ _ _
    ((stderr_eq_message_iff ofWords_startFirst fails_zeroBuild).1 hprinted)

end Remote
end Sandbox
