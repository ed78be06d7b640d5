-- SUMMARY: Driving the Terraform program is using a tool in memory that answers as the processes end.
import Sandbox.Host.Scripted
import Sandbox.Proofs.Deployment.History
import Sandbox.Terraform

/-!
# The tool as processes

A call of the tool is made as one process, and what the call yields is settled by
how the process ends. So a deployment that runs processes yields what it yields
with a tool in memory that gives the same answers, and the processes started are
the calls made there, in order, less those that no process could be started for.

Both records come from one computation: an activity uses its tool in the same way
whatever is recorded, so that a record can be told in other events afterwards.
-/

namespace Sandbox

open Checks

/-! ## Records told in other events -/

namespace Logged

variable {ι κ ε α β : Type}

/-- The same computation with its record told in other events. Events without a translation are
    left out. -/
def translate (f : ι → Option κ) (x : ExceptT ε (Logged ι) α) : ExceptT ε (Logged κ) α :=
  ExceptT.mk ⟨x.run.value, x.run.log.filterMap f⟩

theorem mk_error_bind (e : ε) (log : List ι) (g : α → ExceptT ε (Logged ι) β) :
    (ExceptT.mk ⟨.error e, log⟩ >>= g) = ExceptT.mk ⟨.error e, log⟩ := by
  show Logged.mk (Except.error e : Except ε β) (log ++ []) = Logged.mk (.error e) log
  rw [List.append_nil]

theorem mk_ok_bind (a : α) (log : List ι) (g : α → ExceptT ε (Logged ι) β) :
    (ExceptT.mk ⟨.ok a, log⟩ >>= g) = ExceptT.mk ⟨(g a).run.value, log ++ (g a).run.log⟩ := rfl

theorem map_eq (h : α → β) (x : ExceptT ε (Logged ι) α) :
    h <$> x = ExceptT.mk ⟨x.run.value.map h, x.run.log⟩ := by
  obtain ⟨value, log⟩ := x
  cases value with
  | error e => exact mk_error_bind e log _
  | ok a =>
    show Logged.mk (Except.ok (h a) : Except ε β) (log ++ []) = Logged.mk (.ok (h a)) log
    rw [List.append_nil]

theorem adapt_eq {ε' : Type} (f : ε → ε') (x : ExceptT ε (Logged ι) α) :
    x.adapt f = ExceptT.mk ⟨x.run.value.mapError f, x.run.log⟩ :=
  congrArg (Logged.mk _) (List.append_nil x.run.log)

theorem translate_bind (f : ι → Option κ) (x : ExceptT ε (Logged ι) α)
    (g : α → ExceptT ε (Logged ι) β) :
    translate f (x >>= g) = translate f x >>= fun a => translate f (g a) := by
  obtain ⟨value, log⟩ := x
  cases value with
  | error e => exact congrArg (Logged.mk _) List.filterMap_append
  | ok a => exact congrArg (Logged.mk _) List.filterMap_append

theorem translate_map (f : ι → Option κ) (h : α → β) (x : ExceptT ε (Logged ι) α) :
    translate f (h <$> x) = h <$> translate f x := by
  rw [map_eq, map_eq]
  rfl

end Logged

open Logged

section Translation

variable {ι κ : Type}

/-- A handle whose uses are recorded in other events. -/
def Handle.translate (f : ι → Option κ) (h : Handle (Logged ι)) : Handle (Logged κ) where
  apply assignments := Logged.translate f (h.apply assignments)
  output := Logged.translate f h.output

/-- A tool whose uses are recorded in other events. -/
def Tool.translate (f : ι → Option κ) (t : Tool (Logged ι)) : Tool (Logged κ) where
  init directory := Handle.translate f <$> Logged.translate f (t.init directory)

theorem Answers.translate_reply {α : Type} (f : Call → Option κ) (call : Call)
    (answer : Except Error α) :
    Logged.translate f (reply call answer) = ExceptT.mk ⟨answer, (f call).toList⟩ := by
  refine congrArg (Logged.mk answer) ?_
  show [call].filterMap f = (f call).toList
  cases h : f call <;> simp [h]

end Translation

/-! ## Activities and records -/

namespace Deployment

/-- Carries out an activity. A start yields instances, a stop yields none. -/
def perform {m : Type → Type} [Monad m] (d : Deployment m) :
    Activity → ExceptT Error m (Option Instances)
  | .start r => some <$> d.start r
  | .stopAll => (fun _ => none) <$> d.stopAll

section Directory

variable {m : Type → Type} [Monad m] {c : Configuration} {t t' : Tool m}

/-- A start uses its tool in the configured directory only. -/
theorem start_congr (h : t.init c.directory = t'.init c.directory) (r : Request) :
    (Deployment.mk c t).start r = (Deployment.mk c t').start r := by
  simp only [start, h]

theorem stopAll_congr (h : t.init c.directory = t'.init c.directory) :
    (Deployment.mk c t).stopAll = (Deployment.mk c t').stopAll := by
  simp only [stopAll, h]

theorem perform_congr (h : t.init c.directory = t'.init c.directory) (activity : Activity) :
    (Deployment.mk c t).perform activity = (Deployment.mk c t').perform activity := by
  cases activity with
  | start r => rw [perform, perform, start_congr h]
  | stopAll => rw [perform, perform, stopAll_congr h]

end Directory

variable {ι κ α β : Type}

theorem atStage_eq (stage : Stage) (x : ExceptT Error (Logged ι) α) :
    atStage stage x =
      ExceptT.mk ⟨x.run.value.mapError fun e => .tool stage e.message, x.run.log⟩ :=
  adapt_eq _ x

theorem atStage_map (stage : Stage) (h : α → β) (x : ExceptT Error (Logged ι) α) :
    atStage stage (h <$> x) = h <$> atStage stage x := by
  rw [atStage_eq, atStage_eq, map_eq, map_eq]
  obtain ⟨value, log⟩ := x
  cases value <;> rfl

theorem translate_atStage (f : ι → Option κ) (stage : Stage) (x : ExceptT Error (Logged ι) α) :
    translate f (atStage stage x) = atStage stage (translate f x) := by
  rw [atStage_eq, atStage_eq]
  rfl

theorem start_translate (f : ι → Option κ) (c : Configuration) (t : Tool (Logged ι))
    (r : Request) :
    (Deployment.mk c (t.translate f)).start r = translate f ((Deployment.mk c t).start r) := by
  simp only [start, translate_bind, Tool.translate, atStage_map, translate_atStage, bind_map_left]
  rfl

theorem stopAll_translate (f : ι → Option κ) (c : Configuration) (t : Tool (Logged ι)) :
    (Deployment.mk c (t.translate f)).stopAll = translate f (Deployment.mk c t).stopAll := by
  simp only [stopAll, translate_bind, Tool.translate, atStage_map, translate_atStage,
    bind_map_left]
  rfl

/-- An activity does the same with a tool whose record is told in other events, and its own record
    is told likewise. -/
theorem perform_translate (f : ι → Option κ) (c : Configuration) (t : Tool (Logged ι))
    (activity : Activity) :
    (Deployment.mk c (t.translate f)).perform activity =
      translate f ((Deployment.mk c t).perform activity) := by
  cases activity with
  | start r => rw [perform, perform, start_translate, translate_map]
  | stopAll => rw [perform, perform, stopAll_translate, translate_map]

end Deployment

/-! ## Calls as processes -/

namespace Call

/-- What the program is asked to do. -/
def subcommand : Call → String
  | .init _ => "init"
  | .apply _ => "apply"
  | .output => "output"

/-- The words with which the program is run: those of the subcommand, then `-var` ahead of each
    assignment. -/
def arguments : Call → List String
  | .init _ => ["init", "-input=false", "-no-color"]
  | .apply assignments =>
    ["apply", "-auto-approve", "-input=false", "-no-color"] ++ assignments.flatMap (["-var", ·])
  | .output => ["output", "-json", "-no-color"]

/-- The process that a call asks for. -/
def process (c : Configuration) (call : Call) : Invocation where
  program := c.program
  directory := c.directory
  environment := [("TF_IN_AUTOMATION", "1")]
  arguments := call.arguments

end Call

namespace Host

/-- What a call yields if it is made as a process: a fault of the system if the process cannot be
    started, a fault of the command if it does not exit with code 0, and else what it printed. -/
def carryOut (host : Host) (c : Configuration) (call : Call) : Except Error (List UInt8) :=
  match host.spawn (call.process c) with
  | .error fault => .error (.system fault)
  | .ok outcome =>
    if outcome.status = .code 0 then .ok outcome.stdout
    else .error (.command (.failed call.subcommand outcome.status outcome.stderr))

/-- The process of a call, if it can be started. -/
def started? (host : Host) (c : Configuration) (call : Call) : Option Invocation :=
  match host.spawn (call.process c) with
  | .ok _ => some (call.process c)
  | .error _ => none

/-- The answers of a tool in memory that fails and succeeds as the processes do, and reports the
    outputs that the last of them prints. -/
def answers (host : Host) (c : Configuration) : Answers where
  init directory := (host.carryOut c (.init directory)).map fun _ => ()
  apply assignments := (host.carryOut c (.apply assignments)).map fun _ => ()
  output := do
    let stdout ← host.carryOut c .output
    match Outputs.ofBytes? stdout with
    | some outputs => .ok outputs
    | none => .error .json

end Host

namespace Terraform

/-- Running the program is a call that is recorded if its process can be started. -/
theorem run_eq (host : Host) (c : Configuration) (call : Call) :
    (Terraform.mk host c.program).run c.directory call.arguments =
      translate (host.started? c) (Answers.reply call (host.carryOut c call)) := by
  have hname : call.arguments.headD "" = call.subcommand := by cases call <;> rfl
  have hprocess : (Terraform.mk host c.program).invocation c.directory call.arguments =
    call.process c := rfl
  rw [Answers.translate_reply]
  unfold run Host.started? Host.carryOut
  simp only [hprocess, hname]
  cases host.spawn (call.process c) with
  | error fault => rfl
  | ok outcome =>
    unfold result ExitStatus.isSuccess
    simp only [decide_eq_true_eq]
    rfl

theorem discard_run_eq (host : Host) (c : Configuration) (call : Call) :
    discard ((Terraform.mk host c.program).run c.directory call.arguments) =
      translate (host.started? c)
        (Answers.reply call ((host.carryOut c call).map fun _ => ())) := by
  rw [run_eq, Answers.translate_reply, Answers.translate_reply]
  exact map_eq (fun _ => ()) _

theorem handle_eq (host : Host) (c : Configuration) :
    (Terraform.mk host c.program).handle c.directory =
      (host.answers c).handle.translate (host.started? c) := by
  have happly : ((Terraform.mk host c.program).handle c.directory).apply =
      ((host.answers c).handle.translate (host.started? c)).apply :=
    funext fun assignments => discard_run_eq host c (.apply assignments)
  have houtput : ((Terraform.mk host c.program).handle c.directory).output =
      ((host.answers c).handle.translate (host.started? c)).output := by
    have hrun : (Terraform.mk host c.program).run c.directory outputArguments = _ :=
      run_eq host c .output
    show ((Terraform.mk host c.program).run c.directory outputArguments >>= _) =
      translate (host.started? c) (Answers.reply .output (host.carryOut c .output >>= _))
    rw [hrun, Answers.translate_reply, Answers.translate_reply]
    cases host.carryOut c .output with
    | error e => exact mk_error_bind e _ _
    | ok stdout =>
      rw [mk_ok_bind]
      simp only [bind, Except.bind]
      cases Outputs.ofBytes? stdout with
      | none => exact congrArg (Logged.mk _) (List.append_nil _)
      | some outputs => exact congrArg (Logged.mk _) (List.append_nil _)
  show Handle.mk _ _ = Handle.mk _ _
  rw [Handle.mk.injEq]
  exact ⟨happly, houtput⟩

/-- In the configured directory, the tool that runs a program is the tool in memory with the
    answers of the processes. -/
theorem tool_init_eq (host : Host) (c : Configuration) :
    (Terraform.mk host c.program).tool.init c.directory =
      ((host.answers c).tool.translate (host.started? c)).init c.directory := by
  have hrun : discard ((Terraform.mk host c.program).run c.directory initArguments) = _ :=
    discard_run_eq host c (.init c.directory)
  show (discard ((Terraform.mk host c.program).run c.directory initArguments) >>= fun _ =>
    pure ((Terraform.mk host c.program).handle c.directory)) = _
  rw [hrun, handle_eq, Answers.translate_reply]
  simp only [Tool.translate, Deployment.tool_init_eq, Answers.translate_reply, map_eq]
  simp only [Host.answers]
  cases host.carryOut c (.init c.directory) with
  | error e => exact mk_error_bind e _ _
  | ok stdout => exact congrArg (Logged.mk _) (List.append_nil _)

end Terraform

/-! ## Processes that succeed -/

namespace Host

/-- A process can be started, ends with exit code 0 and leaves `stdout`. -/
def Completes (host : Host) (i : Invocation) (stdout : List UInt8) : Prop :=
  ∃ stderr, host.spawn i = .ok ⟨.code 0, stdout, stderr⟩

variable {host : Host} {c : Configuration} {call : Call}

theorem carryOut_eq_ok {stdout : List UInt8} :
    host.carryOut c call = .ok stdout ↔ host.Completes (call.process c) stdout := by
  unfold carryOut Completes
  cases host.spawn (call.process c) with
  | error fault => simp
  | ok outcome =>
    obtain ⟨status, printed, stderr⟩ := outcome
    by_cases hstatus : status = .code 0 <;> simp [hstatus]

theorem answer_init_eq_ok {directory : SystemText} :
    (host.answers c).answer (.init directory) = .ok () ↔
      ∃ stdout, host.Completes (Call.process c (.init directory)) stdout := by
  simp [Answers.answer, answers, map_eq_ok, carryOut_eq_ok]

theorem answer_apply_eq_ok {assignments : List String} :
    (host.answers c).answer (.apply assignments) = .ok () ↔
      ∃ stdout, host.Completes (Call.process c (.apply assignments)) stdout := by
  simp [Answers.answer, answers, map_eq_ok, carryOut_eq_ok]

theorem output_eq_ok {outputs : Outputs} :
    (host.answers c).output = .ok outputs ↔
      ∃ stdout, host.Completes (Call.process c .output) stdout ∧
        Outputs.ofBytes? stdout = some outputs := by
  simp only [answers, bind_eq_ok, carryOut_eq_ok]
  refine exists_congr fun stdout => and_congr_right fun _ => ?_
  cases Outputs.ofBytes? stdout <;> simp

/-- A call that succeeds was made by a process that does. -/
theorem completes_of_answer (h : (host.answers c).answer call = .ok ()) :
    ∃ stdout, host.Completes (call.process c) stdout := by
  cases call with
  | init directory => exact answer_init_eq_ok.1 h
  | apply assignments => exact answer_apply_eq_ok.1 h
  | output =>
    obtain ⟨outputs, houtputs, -⟩ := map_eq_ok.1 h
    obtain ⟨stdout, hcompletes, -⟩ := output_eq_ok.1 houtputs
    exact ⟨stdout, hcompletes⟩

theorem started?_of_answer (h : (host.answers c).answer call = .ok ()) :
    host.started? c call = some (call.process c) := by
  obtain ⟨stdout, stderr, hspawn⟩ := completes_of_answer h
  rw [started?, hspawn]

theorem started?_of_calls {calls : List Call}
    (h : ∀ call ∈ calls, (host.answers c).answer call = .ok ()) :
    calls.filterMap (host.started? c) = calls.map (Call.process c) := by
  rw [← List.filterMap_eq_map]
  exact List.filterMap_congr fun call hcall => started?_of_answer (h call hcall)

/-- The processes of a script are started in order, and up to one of its calls. -/
theorem started_isPrefix {α : Type} (finish : Except Error α) (script : Script) :
    ((host.answers c).follow finish script).log.filterMap (host.started? c) <+:
      script.calls.map (Call.process c) := by
  rcases Answers.follow_cases (host.answers c) finish script with
    ⟨hok, h⟩ | ⟨before, stage, call, after, e, rfl, hok, -, h⟩
  · exact ⟨[], by rw [h, started?_of_calls hok, List.append_nil]⟩
  · rw [h, List.filterMap_append, started?_of_calls hok]
    simp only [Script.calls, List.map_append, List.map_cons]
    refine List.prefix_append_right_inj _ |>.2 ?_
    unfold started?
    cases hspawn : host.spawn (call.process c) with
    | error fault => simp [hspawn]
    | ok outcome => simp [hspawn]

/-- Whether a process can be started on a scripted host does not depend on the plan. -/
theorem spawn_scripted (plan : Plan) (i : Invocation) :
    (scripted plan).spawn i = ((scripted []).spawn i).map fun _ => plan.outcome i.arguments := by
  unfold spawn scripted
  dsimp only
  split
  · rfl
  · cases Place.directoryOfPath i.directory with
    | error fault => rfl
    | ok place =>
      split
      · simp only [bind, Except.bind, discard, Functor.mapConst]
        cases place.follow i.program <;> rfl
      · split
        · rfl
        · split
          · rfl
          · split <;> rfl

theorem completes_scripted {plan : Plan} {i : Invocation} {stdout stderr : List UInt8}
    (hstarted : (scripted []).spawn i = .ok ⟨.code 0, [], []⟩)
    (houtcome : plan.outcome i.arguments = ⟨.code 0, stdout, stderr⟩) :
    (scripted plan).Completes i stdout := by
  refine ⟨stderr, ?_⟩
  rw [spawn_scripted, hstarted, ← houtcome]
  rfl

end Host

/-! ## Runs on hosts -/

namespace Deployment

/-- A start by processes yields what a start in memory yields, and the processes are those of its
    calls that can be started. -/
theorem start_on_host (host : Host) (c : Configuration) (r : Request) :
    ((Deployment.mk c (Terraform.mk host c.program).tool).start r).run =
      ⟨(startRun c (host.answers c) r).value,
        (startRun c (host.answers c) r).log.filterMap (host.started? c)⟩ := by
  rw [start_congr (Terraform.tool_init_eq host c), start_translate]
  rfl

theorem stopAll_on_host (host : Host) (c : Configuration) :
    (Deployment.mk c (Terraform.mk host c.program).tool).stopAll.run =
      ⟨(stopRun c (host.answers c)).value,
        (stopRun c (host.answers c)).log.filterMap (host.started? c)⟩ := by
  rw [stopAll_congr (Terraform.tool_init_eq host c), stopAll_translate]
  rfl

/-- One step of a run on hosts: an activity, and the host as it is meanwhile. -/
structure HostStep where
  activity : Activity
  host : Host

namespace HostStep

/-- The step with the configured program of the host as the tool. -/
def withProcesses (c : Configuration) (s : HostStep) :
    Logged Invocation (Except Error (Option Instances)) :=
  ((Deployment.mk c (Terraform.mk s.host c.program).tool).perform s.activity).run

/-- The step with a tool in memory that answers as the processes of the host end. -/
def inMemory (c : Configuration) (s : HostStep) : Logged Call (Except Error (Option Instances)) :=
  ((Deployment.mk c (s.host.answers c).tool).perform s.activity).run

theorem withProcesses_eq (c : Configuration) (s : HostStep) :
    s.withProcesses c =
      ⟨(s.inMemory c).value, (s.inMemory c).log.filterMap (s.host.started? c)⟩ := by
  rw [withProcesses, perform_congr (Terraform.tool_init_eq s.host c), perform_translate]
  rfl

end HostStep

/-- All steps of a run on hosts, one after the other. -/
def runOnHosts (c : Configuration) (steps : List HostStep) :
    Logged Invocation (List (Except Error (Option Instances))) :=
  steps.mapM (·.withProcesses c)

/-- A run on hosts yields at each step what the step yields in memory. The processes started are
    those of the calls made in memory, in order, less those that cannot be started. -/
theorem runOnHosts_eq_inMemory (c : Configuration) (steps : List HostStep) :
    runOnHosts c steps =
      ⟨steps.map fun s => (s.inMemory c).value,
        steps.flatMap fun s => (s.inMemory c).log.filterMap (s.host.started? c)⟩ := by
  unfold runOnHosts
  induction steps with
  | nil => rfl
  | cons s steps ih =>
    rw [List.mapM_cons, ih, HostStep.withProcesses_eq]
    show Logged.mk _ (_ ++ (_ ++ [])) = _
    rw [List.append_nil]
    rfl

end Deployment
end Sandbox
