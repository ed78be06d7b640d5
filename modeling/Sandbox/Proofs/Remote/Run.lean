-- SUMMARY: What a run of the remote runner does and leaves behind, for every order on every host.
import Sandbox.Host.Scripted
import Sandbox.Proofs.Deployment.Plan
import Sandbox.Proofs.Remote.CommandLine
import Sandbox.Proofs.Remote.Settings
import Sandbox.Proofs.Terraform
import Sandbox.Remote.Run

/-!
# Runs of the remote runner

An order that is followed starts processes of one program in one directory. What
is printed and the exit code depend on how these processes end: nothing is printed
unless all of them succeed and, for a start, the last one reports the instance.
-/

namespace Sandbox.Remote

open Checks

/-! ## The configuration of an order -/

/-- The configuration under which an order is carried out. -/
def Order.configuration (env : Environment) (order : Order) : Configuration :=
  ⟨(order.settings env).directory, (order.settings env).program⟩

namespace Order

theorem chosen_directory (env : Environment) (order : Order) :
    Chosen order.paths.directory (env.value? "SALVO_TERRAFORM_DIR") "terraform/"
      (order.configuration env).directory :=
  Settings.chosen env directoryVariable "terraform/" order.paths.directory

theorem chosen_program (env : Environment) (order : Order) :
    Chosen order.paths.program (env.value? "SALVO_TERRAFORM_BIN") "terraform"
      (order.configuration env).program :=
  Settings.chosen env programVariable "terraform" order.paths.program

variable {env : Environment} {order : Order}

/-- Without an empty path on the command line, the settings are valid. -/
theorem valid_configuration (h : order.paths.Proper) : (order.configuration env).Valid :=
  ⟨(chosen_directory env order).ne_empty h.1 (by decide),
    (chosen_program env order).ne_empty h.2 (by decide)⟩

theorem settings_configuration (h : order.paths.Proper) :
    (order.settings env).configuration = .ok (order.configuration env) := by
  have hvalidate : (order.configuration env).validate = .ok () :=
    Configuration.validate_eq_ok.2 (valid_configuration h)
  show ((order.configuration env).validate.mapError _ >>= fun _ =>
    Except.ok (order.configuration env)) = _
  rw [hvalidate]
  rfl

end Order

/-! ## One instance -/

theorem requestFor_asks (id : BuildId) : (requestFor id).Asks [id] := by
  refine ⟨?_, by simp, by simp⟩
  show (Dict.insert _ _ _).get? _ = _
  rw [Dict.get?_insert, if_pos rfl]
  rfl

/-- What is assembled for one build is its instance alone. -/
theorem eq_insert_of_assemble {id : BuildId} {outputs : Outputs} {instances : Instances}
    (h : (requestFor id).assemble outputs = .ok instances) :
    ∃ i, instances = Dict.empty.insert id i := by
  have hassemble : Topology.assemble .defaultX64 [id] outputs = .ok instances := by
    rw [← h]
    exact (Request.assembleBy_of_builds (by simp) (requestFor_asks id).1
      fun t builds => t.assemble builds outputs).symm
  have hkeys : ∀ id', id' ∈ instances.keys ↔ id' = id := by
    simpa using (Topology.assemble_eq_ok hassemble).1
  obtain ⟨i, hi⟩ := Dict.mem_keys_iff.1 ((hkeys id).2 rfl)
  refine ⟨i, Dict.ext_get? fun id' => ?_⟩
  rw [Dict.get?_insert]
  by_cases heq : id' = id
  · rw [if_pos heq, heq, hi]
  · rw [if_neg heq, Dict.get?_empty]
    cases hget : instances.get? id' with
    | none => rfl
    | some i' => exact absurd ((hkeys id').1 (Dict.mem_keys_iff.2 ⟨i', hget⟩)) heq

/-! ## Starting -/

/-- The processes of a start of one build, in order. -/
def startProcesses (c : Configuration) (id : BuildId) : List Invocation :=
  [.init c.directory, .apply ["default_sandbox_x64_build_ids=[" ++ toString id ++ "]"], .output].map
    (Call.process c)

/-- All processes of a start end with exit code 0, and the last one prints outputs from which
    the instances of the build are assembled. -/
structure Deploys (host : Host) (c : Configuration) (id : BuildId) (instances : Instances) :
    Prop where
  completes : ∀ i ∈ startProcesses c id, ∃ stdout, host.Completes i stdout
  reports : ∃ stdout outputs, host.Completes (Call.process c .output) stdout ∧
    Outputs.ofBytes? stdout = some outputs ∧ (requestFor id).assemble outputs = .ok instances

theorem calls_startScript (c : Configuration) (id : BuildId) :
    (Deployment.startScript c (requestFor id)).calls.map (Call.process c) =
      startProcesses c id := by
  have htext : Assignment.text ⟨.defaultX64, [id]⟩ =
      "default_sandbox_x64_build_ids=[" ++ toString id ++ "]" := rfl
  rw [Deployment.startScript, (requestFor_asks id).assignmentTexts_eq, htext]
  rfl

section Start

variable {host : Host} {c : Configuration} {id : BuildId}

/-- Processes that succeed and report a plan deploy what is planned. -/
theorem deploys_of_report (plan : Plan)
    (hinit : ∃ stdout, host.Completes (Call.process c (.init c.directory)) stdout)
    (happly : ∃ stdout, host.Completes (Call.process c
      (.apply ["default_sandbox_x64_build_ids=[" ++ toString id ++ "]"])) stdout)
    (houtput : host.Completes (Call.process c .output)
      (Text.Utf8.bytes (plan.report [id] []).printed)) :
    Deploys host c id (Dict.empty.insert id (plan.deployed id)) := by
  have hrealize : (plan.report [id] []).Realize plan [id] := plan.realize_report nofun
  obtain ⟨instances, hinstances, -, hget⟩ := hrealize.assemble (List.nodup_singleton id)
  have hassemble : (requestFor id).assemble (plan.report [id] []) = .ok instances :=
    Request.assemble_eq_ok_iff.2 ⟨[id], List.cons_ne_nil _ _, (requestFor_asks id).1, hinstances⟩
  obtain ⟨i, rfl⟩ := eq_insert_of_assemble hassemble
  obtain rfl : i = plan.deployed id := by
    have hi := hget id (List.mem_singleton_self id)
    rw [Dict.get?_insert, if_pos rfl] at hi
    exact Option.some.inj hi
  refine ⟨?_, _, _, houtput, plan.ofBytes?_report [id] [], hassemble⟩
  simp only [startProcesses, List.map_cons, List.map_nil, List.forall_mem_cons]
  exact ⟨hinit, happly, ⟨_, houtput⟩, List.forall_mem_nil _⟩

theorem startRun_requestFor {a : Answers} (hc : c.Valid) :
    Deployment.startRun c a (requestFor id) =
      a.follow (a.output >>= (requestFor id).assemble)
        (Deployment.startScript c (requestFor id)) :=
  Deployment.startRun_eq_follow (Request.assignments_eq_ok.2 ⟨[id], requestFor_asks id, rfl⟩)
    (Configuration.validate_eq_ok.2 hc)

/-- A start yields instances if and only if its processes deploy them. -/
theorem startRun_value_eq_ok {instances : Instances} (hc : c.Valid) :
    (Deployment.startRun c (host.answers c) (requestFor id)).value = .ok instances ↔
      Deploys host c id instances := by
  rw [startRun_requestFor hc, Answers.follow_value_eq_ok]
  constructor
  · intro h
    obtain ⟨hcalls, hfinish⟩ := h
    obtain ⟨outputs, houtputs, hassemble⟩ := bind_eq_ok.1 hfinish
    obtain ⟨stdout, hstdout, hparse⟩ := Host.output_eq_ok.1 houtputs
    refine ⟨?_, stdout, outputs, hstdout, hparse, hassemble⟩
    intro i hi
    rw [← calls_startScript] at hi
    obtain ⟨call, hcall, rfl⟩ := List.mem_map.1 hi
    exact Host.completes_of_answer (hcalls call hcall)
  · intro h
    obtain ⟨stdout, outputs, hstdout, hparse, hassemble⟩ := h.reports
    have houtputs : (host.answers c).output = .ok outputs :=
      Host.output_eq_ok.2 ⟨stdout, hstdout, hparse⟩
    have hcompletes := h.completes
    rw [← calls_startScript] at hcompletes
    simp only [Deployment.startScript, Script.calls, List.map_cons, List.map_nil,
      List.forall_mem_cons] at hcompletes ⊢
    obtain ⟨hinit, happly, -, hnil⟩ := hcompletes
    refine ⟨⟨Host.answer_init_eq_ok.2 hinit, Host.answer_apply_eq_ok.2 happly, ?_,
      List.forall_mem_nil _⟩, ?_⟩
    · rw [Answers.answer, houtputs]
      rfl
    · rw [houtputs]
      exact hassemble

theorem startRun_started_isPrefix (hc : c.Valid) :
    (Deployment.startRun c (host.answers c) (requestFor id)).log.filterMap (host.started? c) <+:
      startProcesses c id := by
  rw [startRun_requestFor hc, ← calls_startScript]
  exact Host.started_isPrefix _ _

/-- A start that yields instances has run all its processes. -/
theorem startRun_started {instances : Instances} (hc : c.Valid)
    (h : (Deployment.startRun c (host.answers c) (requestFor id)).value = .ok instances) :
    (Deployment.startRun c (host.answers c) (requestFor id)).log.filterMap (host.started? c) =
      startProcesses c id := by
  rw [startRun_requestFor hc] at h ⊢
  have hcalls := (Answers.follow_value_eq_ok.1 h).1
  rw [Answers.follow_of_answers hcalls, ← calls_startScript]
  exact Host.started?_of_calls hcalls

end Start

/-! ## Stopping -/

/-- The processes of a stop, in order. -/
def stopProcesses (c : Configuration) : List Invocation :=
  [Call.init c.directory, .apply []].map (Call.process c)

theorem not_mem_arguments_of_stop {c : Configuration} {i : Invocation}
    (h : i ∈ stopProcesses c) : "-var" ∉ i.arguments := by
  obtain ⟨call, hcall, rfl⟩ := List.mem_map.1 h
  simp only [List.mem_cons, List.not_mem_nil, or_false] at hcall
  rcases hcall with rfl | rfl
  · show "-var" ∉ ["init", "-input=false", "-no-color"]
    decide
  · show "-var" ∉ ["apply", "-auto-approve", "-input=false", "-no-color"]
    decide

theorem stopRun_started_isPrefix {host : Host} {c : Configuration} (hc : c.Valid) :
    (Deployment.stopRun c (host.answers c)).log.filterMap (host.started? c) <+:
      stopProcesses c := by
  rw [Deployment.stopRun_eq_follow (Configuration.validate_eq_ok.2 hc)]
  exact Host.started_isPrefix _ _

theorem stopRun_value_eq_ok {host : Host} {c : Configuration} (hc : c.Valid) :
    (Deployment.stopRun c (host.answers c)).value = .ok () ↔
      ∀ i ∈ stopProcesses c, ∃ stdout, host.Completes i stdout := by
  rw [Deployment.stopRun_eq_follow (Configuration.validate_eq_ok.2 hc), Answers.follow_value_eq_ok]
  simp only [Deployment.stopScript, Script.calls, stopProcesses, List.map_cons, List.map_nil,
    List.forall_mem_cons, Host.answer_init_eq_ok, Host.answer_apply_eq_ok]
  simp

/-! ## Runs -/

/-- A report tells success from failure by its exit code. -/
theorem Report.exitCode_ofResult {r : Except Failure String} :
    (ofResult r).exitCode = 0 ↔ ∃ stdout, r = .ok stdout := by
  cases r <;> simp [ofResult]

theorem Report.ofResult_failed {r : Except Failure String} (h : (ofResult r).exitCode ≠ 0) :
    (ofResult r).exitCode = 1 ∧ (ofResult r).stdout = "" := by
  cases r with
  | ok stdout => exact absurd rfl h
  | error failure => exact ⟨rfl, rfl⟩

theorem carryOut_refused {ι : Type} (d : Deployment (Logged ι)) {s : Selection}
    {fault : SettingsFault} (h : s.resolve = .error fault) :
    (carryOut d (.start s)).run = ⟨.error (.settings fault), []⟩ := by
  rw [carryOut, h]
  rfl

theorem carryOut_start {ι : Type} {d : Deployment (Logged ι)} {s : Selection} {id : BuildId}
    (h : s.Picks id) :
    (carryOut d (.start s)).run =
      ⟨((d.start (requestFor id)).run.value.mapError .sandbox).map Instances.report,
        (d.start (requestFor id)).run.log⟩ := by
  have hresolve : carryOut d (.start s) =
      (d.start (requestFor id)).adapt .sandbox >>= fun instances => pure instances.report := by
    rw [carryOut, Selection.resolve_eq_ok.2 h]
    rfl
  rw [hresolve, bind_pure_comp, Logged.map_eq, Logged.adapt_eq]
  rfl

theorem carryOut_stopAll {ι : Type} (d : Deployment (Logged ι)) :
    (carryOut d .stopAll).run =
      ⟨(d.stopAll.run.value.mapError .sandbox).map fun _ => "", d.stopAll.run.log⟩ := by
  rw [carryOut, bind_pure_comp, Logged.map_eq, Logged.adapt_eq]
  rfl

/-- The deployment of a configuration by the program of a host. -/
abbrev onHost (host : Host) (c : Configuration) : Deployment (Logged Invocation) :=
  ⟨c, (Terraform.mk host c.program).tool⟩

/-- A run that follows an order carries out its command under the order's configuration. -/
theorem runOn_eq (wording : Wording) (host : Host) {env : Environment} {words : List SystemText}
    {order : Order} (h : Order.ofWords env words = .ok order) :
    let c := order.configuration env
    let x := (carryOut (onHost host c) order.command).run
    runOn wording host env words = ⟨.ofResult x.value, x.log⟩ := by
  intro c x
  have horder : (order.run (fun program => (Terraform.mk host program).tool) env).run = x := by
    rw [Order.run, Order.settings_configuration (Order.proper_paths h)]
    rfl
  unfold runOn run
  rw [h]
  dsimp only
  rw [horder]
  exact congrArg (Logged.mk _) (List.append_nil _)

/-- How a run of `start` ends on a host. -/
structure Starts (host : Host) (c : Configuration) (s : Selection)
    (run : Logged Invocation Report) : Prop where
  exitCode_eq_zero_iff : run.value.exitCode = 0 ↔
    ∃ id instances, s.Picks id ∧ Deploys host c id instances
  /-- All processes are run, and the instance is printed. -/
  deployed : ∀ id instances, s.Picks id → Deploys host c id instances →
    run.log = startProcesses c id ∧
      ∃ i, instances = Dict.empty.insert id i ∧
        run.value.stdout = ((Instances.toJson (Dict.empty.insert id i)).indented 0).text ++ "\n"
  failed : run.value.exitCode ≠ 0 → run.value.exitCode = 1 ∧ run.value.stdout = ""
  attempted : ∀ id, s.Picks id → run.log <+: startProcesses c id
  /-- No process is run if one of the numbers is not sound, whichever would be used. -/
  refused : ¬ (1 ≤ s.buildId ∧ 0 ≤ s.override) → run.log = []

/-- How a run of `stop-all` ends on a host. -/
structure Stops (host : Host) (c : Configuration) (run : Logged Invocation Report) : Prop where
  exitCode_eq_zero_iff : run.value.exitCode = 0 ↔
    ∀ i ∈ stopProcesses c, ∃ stdout, host.Completes i stdout
  failed : run.value.exitCode ≠ 0 → run.value.exitCode = 1
  silent : run.value.stdout = ""
  attempted : run.log <+: stopProcesses c
  unassigned : ∀ i ∈ run.log, "-var" ∉ i.arguments

variable {host : Host} {c : Configuration}

theorem starts_of_error {s : Selection} {fault : SettingsFault} (h : s.resolve = .error fault) :
    Starts host c s ⟨.ofResult (.error (.settings fault)), []⟩ := by
  have hnone : ∀ id, ¬ s.Picks id := by
    intro id hid
    cases h.symm.trans (Selection.resolve_eq_ok.2 hid)
  constructor
  case exitCode_eq_zero_iff =>
    constructor
    · intro hzero
      cases hzero
    · intro hdone
      obtain ⟨id, _, hid, -⟩ := hdone
      exact absurd hid (hnone id)
  case deployed =>
    intro id _ hid
    exact absurd hid (hnone id)
  case failed => exact Report.ofResult_failed
  case attempted =>
    intro id hid
    exact absurd hid (hnone id)
  case refused => exact fun _ => rfl

theorem starts_of_picks {s : Selection} {id : BuildId} (h : s.Picks id) (hc : c.Valid) :
    let x := Deployment.startRun c (host.answers c) (requestFor id)
    Starts host c s ⟨.ofResult ((x.value.mapError .sandbox).map Instances.report),
      x.log.filterMap (host.started? c)⟩ := by
  intro x
  have hvalue : ∀ instances, x.value = .ok instances ↔ Deploys host c id instances := fun _ =>
    startRun_value_eq_ok hc
  constructor
  case exitCode_eq_zero_iff =>
    simp only [Report.exitCode_ofResult, map_eq_ok, mapError_eq_ok, hvalue]
    constructor
    · intro hdone
      obtain ⟨_, instances, hdeploys, -⟩ := hdone
      exact ⟨id, instances, h, hdeploys⟩
    · intro hdone
      obtain ⟨id', instances, hid', hdeploys⟩ := hdone
      obtain rfl := hid'.unique h
      exact ⟨_, instances, hdeploys, rfl⟩
  case deployed =>
    intro id' instances hid' hdeploys
    obtain rfl := hid'.unique h
    have hx := (hvalue instances).2 hdeploys
    obtain ⟨_, _, -, -, hassemble⟩ := hdeploys.reports
    obtain ⟨i, rfl⟩ := eq_insert_of_assemble hassemble
    refine ⟨startRun_started hc hx, i, rfl, ?_⟩
    rw [hx]
    rfl
  case failed => exact Report.ofResult_failed
  case attempted =>
    intro id' hid'
    obtain rfl := hid'.unique h
    exact startRun_started_isPrefix hc
  case refused =>
    intro hunsound
    exact absurd (Selection.exists_picks_iff.1 ⟨id, h⟩) hunsound

theorem stops_of_valid (hc : c.Valid) :
    let x := Deployment.stopRun c (host.answers c)
    Stops host c ⟨.ofResult ((x.value.mapError .sandbox).map fun _ => ""),
      x.log.filterMap (host.started? c)⟩ := by
  intro x
  have hattempted : x.log.filterMap (host.started? c) <+: stopProcesses c :=
    stopRun_started_isPrefix hc
  constructor
  case exitCode_eq_zero_iff =>
    rw [← stopRun_value_eq_ok hc]
    simp only [Report.exitCode_ofResult, map_eq_ok, mapError_eq_ok]
    constructor
    · intro hdone
      obtain ⟨_, _, hx, -⟩ := hdone
      exact hx
    · intro hx
      exact ⟨_, (), hx, rfl⟩
  case failed => exact fun hcode => (Report.ofResult_failed hcode).1
  case silent => cases x.value <;> rfl
  case attempted => exact hattempted
  case unassigned =>
    intro i hi
    exact not_mem_arguments_of_stop (hattempted.subset hi)

theorem starts_carryOut (host : Host) (hc : c.Valid) (s : Selection) :
    let x := (carryOut (onHost host c) (.start s)).run
    Starts host c s ⟨.ofResult x.value, x.log⟩ := by
  intro x
  cases hs : s.resolve with
  | error fault =>
    have hx : x = ⟨.error (.settings fault), []⟩ := carryOut_refused _ hs
    rw [hx]
    exact starts_of_error hs
  | ok id =>
    have hid := Selection.resolve_eq_ok.1 hs
    have hx : x = _ := carryOut_start hid
    rw [hx, Deployment.start_on_host]
    exact starts_of_picks hid hc

theorem stops_carryOut (host : Host) (hc : c.Valid) :
    let x := (carryOut (onHost host c) .stopAll).run
    Stops host c ⟨.ofResult x.value, x.log⟩ := by
  intro x
  have hx : x = _ := carryOut_stopAll _
  rw [hx, Deployment.stopAll_on_host]
  exact stops_of_valid hc

/-! ## Command lines -/

/-- A run starts processes of one program in one directory. -/
def Uses (c : Configuration) (run : Logged Invocation Report) : Prop :=
  ∀ i ∈ run.log, i.directory = c.directory ∧ i.program = c.program

theorem uses_of_isPrefix {run : Logged Invocation Report} {calls : List Call}
    (h : run.log <+: calls.map (Call.process c)) : Uses c run := by
  intro i hi
  obtain ⟨call, -, rfl⟩ := List.mem_map.1 (h.subset hi)
  exact ⟨rfl, rfl⟩

theorem Starts.uses {s : Selection} {run : Logged Invocation Report} (h : Starts host c s run) :
    Uses c run := by
  by_cases hsound : 1 ≤ s.buildId ∧ 0 ≤ s.override
  · obtain ⟨id, hid⟩ := Selection.exists_picks_iff.2 hsound
    exact uses_of_isPrefix (h.attempted id hid)
  · intro i hi
    rw [h.refused hsound] at hi
    cases hi

/-- Whatever the host, an order that is followed uses the paths chosen for it, and its command
    ends as told by the processes that it starts. -/
theorem runOn_of_order (wording : Wording) (host : Host) {env : Environment}
    {words : List SystemText} {order : Order} (h : Order.ofWords env words = .ok order) :
    ∃ c : Configuration,
      Chosen order.paths.directory (env.value? "SALVO_TERRAFORM_DIR") "terraform/" c.directory ∧
      Chosen order.paths.program (env.value? "SALVO_TERRAFORM_BIN") "terraform" c.program ∧
      Uses c (runOn wording host env words) ∧
      match order.command with
      | .start s => Starts host c s (runOn wording host env words)
      | .stopAll => Stops host c (runOn wording host env words) := by
  have hc : (order.configuration env).Valid := Order.valid_configuration (Order.proper_paths h)
  refine ⟨order.configuration env, Order.chosen_directory env order,
    Order.chosen_program env order, ?_⟩
  rw [runOn_eq wording host h]
  cases order.command with
  | start s =>
    have hstarts := starts_carryOut host hc s
    exact ⟨hstarts.uses, hstarts⟩
  | stopAll =>
    have hstops := stops_carryOut host hc
    exact ⟨uses_of_isPrefix hstops.attempted, hstops⟩

/-- An environment that names a directory and, by an empty value, no program. -/
def partialEnvironment : Environment :=
  .ofTexts fun name =>
    [("SALVO_TERRAFORM_DIR", "ignored"), ("SALVO_TERRAFORM_BIN", "")].lookup name

def overridingWords : List SystemText :=
  ["start", "--build-id=12", "--terraform-dir", "alt", "--build-id-override", "7"]

/-- A host whose tool reports the planned addresses of one build. -/
def plannedHost (id : BuildId) : Host :=
  .scripted [("output",
    ⟨.code 0, Text.Utf8.bytes (Deployment.mixedPlan.report [id] []).printed, []⟩)]

/-- The wording that has no words. -/
def Wording.silent : Wording := ⟨fun _ => "", fun _ _ => ""⟩

theorem runOn_overriding :
    let id : BuildId := ⟨7, by decide⟩
    let run := runOn .silent (plannedHost id) partialEnvironment overridingWords
    Order.ofWords partialEnvironment overridingWords =
        .ok ⟨⟨some ↑"alt", none⟩, .start ⟨12, 7⟩⟩ ∧
      run.value.exitCode = 0 ∧ run.log = startProcesses ⟨"alt", "terraform"⟩ id ∧
      run.value.stdout = ((Instances.toJson
        (Dict.empty.insert id (Deployment.mixedPlan.deployed id))).indented 0).text ++ "\n" := by
  intro id run
  have horder : Order.ofWords partialEnvironment overridingWords =
      .ok ⟨⟨some ↑"alt", none⟩, .start ⟨12, 7⟩⟩ := by decide
  have hpicks : Selection.Picks ⟨12, 7⟩ id := ⟨by decide, by decide, by decide⟩
  obtain ⟨c, hdirectory, hprogram, -, hstarts⟩ := runOn_of_order .silent (plannedHost id) horder
  obtain rfl : c = ⟨"alt", "terraform"⟩ := by
    have hunset : ∀ path : String, partialEnvironment.value? "SALVO_TERRAFORM_BIN" = some ↑path →
        path = "" :=
      fun path hvalue => SystemText.ofString_injective (Option.some.inj hvalue).symm
    exact congrArg₂ Configuration.mk (hdirectory.unique (.flag rfl))
      (hprogram.unique (.default rfl hunset))
  have hdeploys : Deploys (plannedHost id) ⟨"alt", "terraform"⟩ id
      (Dict.empty.insert id (Deployment.mixedPlan.deployed id)) :=
    deploys_of_report Deployment.mixedPlan ⟨_, Host.completes_scripted (by decide +kernel) rfl⟩
      ⟨_, Host.completes_scripted (by decide +kernel) rfl⟩
      (Host.completes_scripted (by decide +kernel) rfl)
  obtain ⟨hlog, i, hi, hstdout⟩ := hstarts.deployed id _ hpicks hdeploys
  rw [← hi] at hstdout
  exact ⟨horder, hstarts.exitCode_eq_zero_iff.2 ⟨id, _, hpicks, hdeploys⟩, hlog, hstdout⟩

/-- An environment that names a directory by a value that is not Unicode. -/
def strayEnvironment : Environment :=
  ⟨fun name =>
    [("SALVO_TERRAFORM_DIR", ⟨Text.Utf8.bytes "/tmp/" ++ [0xFF]⟩)].lookup name⟩

/-- It is not so that, without a flag, a variable that is set and not empty names the directory of
    all processes. Nor is it so that nothing is printed if a command line that is not refused
    names the command `stop-all`. -/
theorem not_runOn_literally :
    (¬ ∀ (wording : Wording) (host : Host) (env : Environment) (words : List SystemText)
      (order : Order) (value : SystemText),
      Order.ofWords env words = .ok order → order.paths.directory = none →
      env.value? "SALVO_TERRAFORM_DIR" = some value → value.bytes ≠ [] →
      ∀ i ∈ (runOn wording host env words).log, i.directory = value) ∧
    ¬ ∀ (wording : Wording) (host : Host) (env : Environment) (words : List SystemText),
      ↑"stop-all" ∈ words →
      (runOn wording host env words).value.exitCode ≠ 2 →
      (runOn wording host env words).value.stdout = "" := by
  constructor
  · intro h
    have hmem : Call.process {} (.init "terraform/") ∈
        (runOn .silent (.scripted []) strayEnvironment ["stop-all"]).log := by decide +kernel
    have hdirectory := h _ _ _ _ ⟨{}, .stopAll⟩ _ (by decide) rfl rfl (by decide) _ hmem
    exact absurd hdirectory (by decide)
  · intro h
    have hsilent := h .silent (.scripted []) ∅ ["--version", "stop-all"] (by decide) (by decide)
    exact absurd hsilent (by decide)

end Sandbox.Remote
