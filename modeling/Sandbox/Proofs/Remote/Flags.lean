-- SUMMARY: What the flags of a command line do to the order that it gives.
import Sandbox.Proofs.Integer
import Sandbox.Proofs.Remote.CommandLine
import Sandbox.Proofs.Utf8

/-!
# Flags on the command line

A flag has the same effect whether its value stands behind the equals sign or is
the next word. Flags around a command make up its order: a path that is given
after the command comes before one that is given ahead of it, and a number that
is not given may come from the environment. So an order can be given if and only
if it has no empty path.
-/

namespace Sandbox.Remote

open Checks

/-! ## Words for flags -/

namespace Word

variable {name value : List UInt8}

theorem splitValue_of_not_mem (h : equalsSign ∉ name) : splitValue name = (name, none) := by
  induction name with
  | nil => rfl
  | cons b name ih =>
    obtain ⟨hb, hname⟩ := not_or.1 (List.mem_cons.not.1 h)
    rw [splitValue, if_neg (Ne.symm hb), ih hname]

theorem splitValue_append (h : equalsSign ∉ name) :
    splitValue (name ++ equalsSign :: value) = (name, some value) := by
  induction name with
  | nil => rfl
  | cons b name ih =>
    obtain ⟨hb, hname⟩ := not_or.1 (List.mem_cons.not.1 h)
    rw [List.cons_append, splitValue, if_neg (Ne.symm hb), ih hname]

end Word

namespace Flag

/-- The word that gives a flag and leaves its value to the next word. -/
def dashed (flag : Flag) : SystemText :=
  ⟨Word.hyphen :: Word.hyphen :: Text.Utf8.bytes flag.name⟩

/-- The word that gives a flag and its value. -/
def joined (flag : Flag) (value : SystemText) : SystemText :=
  ⟨flag.dashed.bytes ++ Word.equalsSign :: value.bytes⟩

theorem equalsSign_not_mem_name (flag : Flag) : Word.equalsSign ∉ Text.Utf8.bytes flag.name := by
  cases flag <;> decide

theorem ofText_dashed (flag : Flag) : Word.ofText flag.dashed = .long flag.name none := by
  have hname : (Text.Utf8.bytes flag.name).isEmpty = false := by cases flag <;> rfl
  simp [Word.ofText, dashed, Word.afterHyphen, hname, SystemText.ofString,
    Word.splitValue_of_not_mem flag.equalsSign_not_mem_name]

theorem ofText_joined (flag : Flag) (value : SystemText) :
    Word.ofText (flag.joined value) = .long flag.name (some value) := by
  simp [Word.ofText, joined, dashed, Word.afterHyphen, SystemText.ofString,
    Word.splitValue_append flag.equalsSign_not_mem_name]

theorem find?_allowed {flag : Flag} {command : Option CommandName} (h : flag ∈ allowed command) :
    (allowed command).find? (·.name = SystemText.ofString flag.name) = some flag := by
  revert h
  rcases command with _ | _ | _ <;> cases flag <;> decide

end Flag

/-- Words that give flags their values, each behind the equals sign or as a word of its own. -/
inductive Gives : List SystemText → List (Flag × SystemText) → Prop
  | nil : Gives [] []
  | joined (flag : Flag) (value : SystemText) {words given} : Gives words given →
      Gives (flag.joined value :: words) ((flag, value) :: given)
  | dashed {flag : Flag} {value : SystemText} {words given} : Reading.isValue flag value = true →
      Gives words given → Gives (flag.dashed :: value :: words) ((flag, value) :: given)

theorem exists_gives (given : List (Flag × SystemText)) : ∃ words, Gives words given := by
  induction given with
  | nil => exact ⟨[], .nil⟩
  | cons g given ih =>
    obtain ⟨words, hwords⟩ := ih
    exact ⟨_, .joined g.1 g.2 hwords⟩

/-! ## What a flag does -/

namespace Reading

/-- The next word may be an option. -/
structure Open (r : Reading) : Prop where
  topic : r.topic = none
  pending : r.pending = none
  terminated : r.terminated = false

/-- Takes the values of flags, one after the other. -/
def assignAll (r : Reading) (given : List (Flag × SystemText)) : Except UsageFault Reading :=
  given.foldlM (fun r g => r.assign g.1 g.2) r

/-- Taking a value changes neither where reading stands nor the command. -/
theorem assign_frame {r r' : Reading} {flag : Flag} {value : SystemText} (hr : r.Open)
    (h : r.assign flag value = .ok r') : r'.Open ∧ r'.command = r.command := by
  obtain ⟨n, rfl⟩ | ⟨n, rfl⟩ | ⟨paths, -, rfl⟩ := assign_cases h
  · exact ⟨⟨hr.topic, hr.pending, hr.terminated⟩, rfl⟩
  · exact ⟨⟨hr.topic, hr.pending, hr.terminated⟩, rfl⟩
  · unfold withPaths
    split <;> exact ⟨⟨hr.topic, hr.pending, hr.terminated⟩, rfl⟩

theorem step_joined {r : Reading} {flag : Flag} (hr : r.Open)
    (hflag : flag ∈ Flag.allowed r.command) (value : SystemText) :
    r.step (flag.joined value) = (r.assign flag value).mapError .usage := by
  simp [step, hr.topic, hr.pending, hr.terminated, Flag.ofText_joined, readLong,
    Flag.find?_allowed hflag]

/-- A value that is a word of its own is taken as one behind the equals sign is. -/
theorem step_dashed {r : Reading} {flag : Flag} {value : SystemText} (hr : r.Open)
    (hflag : flag ∈ Flag.allowed r.command) (hvalue : isValue flag value = true) :
    (r.step flag.dashed >>= fun r => r.step value) = r.step (flag.joined value) := by
  have hdashed : r.step flag.dashed = .ok { r with pending := some flag } := by
    simp [step, hr.topic, hr.pending, hr.terminated, Flag.ofText_dashed, readLong,
      Flag.find?_allowed hflag]
  have htaken : { r with pending := some flag }.step value =
      ({ r with pending := none }.assign flag value).mapError .usage := by
    simp [step, hr.topic, hvalue]
  rw [step_joined hr hflag, hdashed]
  refine htaken.trans ?_
  rw [← hr.pending]

theorem foldlM_joined {r : Reading} {flag : Flag} {value : SystemText} {words : List SystemText}
    {given : List (Flag × SystemText)} (hr : r.Open) (hflag : flag ∈ Flag.allowed r.command)
    (hrest : ∀ {r' : Reading}, r'.Open → r'.command = r.command →
      words.foldlM step r' = (r'.assignAll given).mapError .usage) :
    (flag.joined value :: words).foldlM step r =
      (r.assignAll ((flag, value) :: given)).mapError .usage := by
  rw [List.foldlM_cons, step_joined hr hflag, assignAll, List.foldlM_cons]
  cases hassign : r.assign flag value with
  | error fault => rfl
  | ok r' =>
    obtain ⟨hopen, hcommand⟩ := assign_frame hr hassign
    exact hrest hopen hcommand

/-- However flags are spelled, their values are taken one after the other. -/
theorem foldlM_of_gives {words : List SystemText} {given : List (Flag × SystemText)}
    (h : Gives words given) {r : Reading} (hr : r.Open)
    (hgiven : ∀ g ∈ given, g.1 ∈ Flag.allowed r.command) :
    words.foldlM step r = (r.assignAll given).mapError .usage := by
  induction h generalizing r with
  | nil => rfl
  | joined flag value _ ih =>
    obtain ⟨hflag, hrest⟩ := List.forall_mem_cons.1 hgiven
    exact foldlM_joined hr hflag fun hopen hcommand => ih hopen (by rwa [hcommand])
  | dashed hvalue _ ih =>
    obtain ⟨hflag, hrest⟩ := List.forall_mem_cons.1 hgiven
    simp only [List.foldlM_cons]
    rw [← bind_assoc, step_dashed hr hflag hvalue]
    exact foldlM_joined hr hflag fun hopen hcommand => ih hopen (by rwa [hcommand])

end Reading

/-! ## Orders from flags -/

theorem PathFlags.over_none (paths : PathFlags) : paths.over {} = paths := by
  obtain ⟨_ | _, _ | _⟩ := paths <;> rfl

/-- The flags that give paths. -/
def PathFlags.given (paths : PathFlags) : List (Flag × SystemText) :=
  (paths.directory.map (Flag.directory, ·)).toList ++ (paths.program.map (Flag.program, ·)).toList

theorem PathFlags.allowed_of_mem_given (paths : PathFlags) (command : Option CommandName) :
    ∀ g ∈ paths.given, g.1 ∈ Flag.allowed command := by
  have hallowed : Flag.directory ∈ Flag.allowed command ∧ Flag.program ∈ Flag.allowed command := by
    rcases command with _ | _ | _ <;> decide
  intro g hg
  rcases List.mem_append.1 hg with hg | hg
  · obtain ⟨_, -, rfl⟩ := Option.map_eq_some_iff.1 (Option.mem_toList.1 hg)
    exact hallowed.1
  · obtain ⟨_, -, rfl⟩ := Option.map_eq_some_iff.1 (Option.mem_toList.1 hg)
    exact hallowed.2

/-- The flags that give numbers. -/
def numbersGiven (buildId override : Option Int64) : List (Flag × SystemText) :=
  (buildId.map fun n => (Flag.buildId, SystemText.ofString (toString n))).toList ++
    (override.map fun n => (Flag.override, SystemText.ofString (toString n))).toList

namespace Reading

variable {r : Reading}

theorem assignAll_append (r : Reading) (given given' : List (Flag × SystemText)) :
    r.assignAll (given ++ given') = r.assignAll given >>= fun r => r.assignAll given' :=
  List.foldlM_append

/-- A flag that need not be given leads from `r` to `r'` if it does where it is given, and the
    readings are the same where it is not. -/
theorem assignAll_toList {α : Type} {r' : Reading} {given : Option α} {flag : Flag}
    {text : α → SystemText} (hnone : given = none → r = r')
    (hsome : ∀ a, given = some a → r.assign flag (text a) = .ok r') :
    r.assignAll (given.map fun a => (flag, text a)).toList = .ok r' := by
  cases given with
  | none => exact congrArg Except.ok (hnone rfl)
  | some a =>
    show (r.assign flag (text a) >>= fun r => pure r) = _
    rw [hsome a rfl]
    rfl

@[simp] theorem paths_withPaths (paths : PathFlags) : (r.withPaths paths).paths = paths := by
  unfold withPaths Reading.paths
  split <;> simp [*]

@[simp] theorem withPaths_withPaths (paths paths' : PathFlags) :
    (r.withPaths paths).withPaths paths' = r.withPaths paths' := by
  unfold withPaths
  split <;> simp [*]

@[simp] theorem withPaths_paths : r.withPaths r.paths = r := by
  unfold withPaths paths
  split <;> rfl

theorem assign_directory {value : SystemText} (hvalue : value ≠ "")
    (hnew : r.paths.directory = none) :
    r.assign .directory value = .ok (r.withPaths { r.paths with directory := some value }) := by
  rw [assign_path rfl, assignPath, if_neg (by simpa using hvalue), if_pos rfl, hnew]
  rfl

theorem assign_program {value : SystemText} (hvalue : value ≠ "")
    (hnew : r.paths.program = none) :
    r.assign .program value = .ok (r.withPaths { r.paths with program := some value }) := by
  rw [assign_path rfl, assignPath, if_neg (by simpa using hvalue), if_neg (by decide), hnew]
  rfl

theorem integerOf_toString (flag : Flag) (n : Int64) :
    integerOf flag (SystemText.ofString (toString n)) = .ok n := by
  rw [integerOf, SystemText.text?_ofString]
  dsimp only
  rw [Text.integer_toString]
  rfl

theorem assign_buildId (hnew : r.buildId = none) (n : Int64) :
    r.assign .buildId (SystemText.ofString (toString n)) = .ok { r with buildId := some n } := by
  simp only [assign, integerOf_toString, once, hnew]
  rfl

theorem assign_override (hnew : r.override = none) (n : Int64) :
    r.assign .override (SystemText.ofString (toString n)) = .ok { r with override := some n } := by
  simp only [assign, integerOf_toString, once, hnew]
  rfl

theorem assignAll_paths {paths : PathFlags} (h : paths.Proper) (hnew : r.paths = {}) :
    r.assignAll paths.given = .ok (r.withPaths paths) := by
  obtain ⟨directory, program⟩ := paths
  rw [PathFlags.given, assignAll_append]
  refine bind_eq_ok.2 ⟨r.withPaths ⟨directory, none⟩, assignAll_toList ?_ ?_,
    assignAll_toList ?_ ?_⟩
  · rintro rfl
    exact withPaths_paths.symm.trans (congrArg r.withPaths hnew)
  · rintro value rfl
    have hvalue : value ≠ "" := fun hempty => h.1 (congrArg some hempty)
    rw [assign_directory hvalue (by rw [hnew]), hnew]
  · rintro rfl
    rfl
  · rintro value rfl
    have hvalue : value ≠ "" := fun hempty => h.2 (congrArg some hempty)
    rw [assign_program hvalue (by simp)]
    simp

theorem assignAll_numbers {buildId override : Option Int64} (hbuildId : r.buildId = none)
    (hoverride : r.override = none) :
    r.assignAll (numbersGiven buildId override) =
      .ok { r with buildId := buildId, override := override } := by
  rw [numbersGiven, assignAll_append]
  refine bind_eq_ok.2 ⟨{ r with buildId := buildId }, assignAll_toList ?_ ?_,
    assignAll_toList ?_ ?_⟩
  · rintro rfl
    rw [← hbuildId]
  · rintro n rfl
    exact assign_buildId hbuildId n
  · rintro rfl
    rw [← hoverride]
  · rintro n rfl
    exact assign_override (r := { r with buildId := buildId }) hoverride n

/-- Reading a command makes its flags allowed. -/
theorem step_command (name : CommandName) {r : Reading} (hr : r.Open) (hnone : r.command = none) :
    r.step name.word = .ok { r with command := some name } := by
  have hword : Word.ofText name.word = .plain := by cases name <;> decide
  have hname : CommandName.ofWord? name.word = some name := by cases name <;> decide
  simp [step, hr.topic, hr.pending, hr.terminated, hword, readPlain, hnone, hname]

/-- Flags around a command are read as what they give on either side of it. -/
theorem foldlM_command (name : CommandName) (buildId override : Option Int64)
    {before after : List SystemText} {outer inner : PathFlags} (hbefore : Gives before outer.given)
    (hafter : Gives after (inner.given ++ numbersGiven buildId override))
    (houter : outer.Proper) (hinner : inner.Proper)
    (hnumbers : ∀ g ∈ numbersGiven buildId override, g.1 ∈ Flag.allowed (some name)) :
    (before ++ ↑name.word :: after).foldlM step {} =
      .ok { outer, inner, buildId, override, command := some name } := by
  have hahead : before.foldlM step {} = .ok { outer } := by
    rw [foldlM_of_gives hbefore ⟨rfl, rfl, rfl⟩ (outer.allowed_of_mem_given none),
      assignAll_paths houter rfl]
    rfl
  have hbehind : after.foldlM step { outer, command := some name } =
      .ok { outer, inner, buildId, override, command := some name } := by
    have hallowed : ∀ g ∈ inner.given ++ numbersGiven buildId override,
        g.1 ∈ Flag.allowed (some name) :=
      List.forall_mem_append.2 ⟨inner.allowed_of_mem_given _, hnumbers⟩
    rw [foldlM_of_gives hafter ⟨rfl, rfl, rfl⟩ hallowed, assignAll_append,
      assignAll_paths hinner rfl]
    exact congrArg (Except.mapError Stop.usage) (assignAll_numbers rfl rfl)
  rw [List.foldlM_append, hahead]
  show ((↑name.word :: after).foldlM step { outer }) = _
  rw [List.foldlM_cons, step_command name ⟨rfl, rfl, rfl⟩ rfl]
  exact hbehind

end Reading

namespace Order

variable {env : Environment} {before after : List SystemText} {outer inner : PathFlags}

/-- Paths around the command `stop-all` make up its order. -/
theorem ofWords_stopAll (hbefore : Gives before outer.given) (hafter : Gives after inner.given)
    (houter : outer.Proper) (hinner : inner.Proper) :
    Order.ofWords env (before ++ ↑"stop-all" :: after) = .ok ⟨inner.over outer, .stopAll⟩ := by
  have hgiven : Gives after (inner.given ++ numbersGiven none none) := by
    rwa [show numbersGiven none none = [] from rfl, List.append_nil]
  have hread := Reading.foldlM_command .stopAll none none hbefore hgiven houter hinner nofun
  exact bind_eq_ok.2 ⟨_, hread, rfl⟩

/-- Paths around the command `start` and numbers after it make up its order. A number that is not
    given is the one that the environment supplies. -/
theorem ofWords_start {buildId override : Option Int64} (hbefore : Gives before outer.given)
    (hafter : Gives after (inner.given ++ numbersGiven buildId override))
    (houter : outer.Proper) (hinner : inner.Proper) :
    Order.ofWords env (before ++ ↑"start" :: after) =
      ((Reading.selection env { buildId, override }).mapError .usage).map fun s =>
        ⟨inner.over outer, .start s⟩ := by
  have hnumbers : ∀ g ∈ numbersGiven buildId override, g.1 ∈ Flag.allowed (some .start) :=
    fun g _ => by cases g.1 <;> decide
  have hread : (before ++ ↑"start" :: after).foldlM Reading.step {} = _ :=
    Reading.foldlM_command .start buildId override hbefore hafter houter hinner hnumbers
  rw [ofWords, hread]
  show ((Reading.selection env { buildId, override }).mapError Stop.usage >>= fun s =>
    Except.ok (Order.mk (inner.over outer) (.start s))) = _
  cases Reading.selection env { buildId, override } <;> rfl

/-- A command line can give an order in just those cases in which its paths are not empty. -/
theorem exists_ofWords_iff {order : Order} :
    (∃ words, Order.ofWords env words = .ok order) ↔ order.paths.Proper := by
  constructor
  · intro h
    obtain ⟨words, hwords⟩ := h
    exact proper_paths hwords
  · intro h
    have hbefore : Gives [] (PathFlags.given {}) := .nil
    have hnone : PathFlags.Proper {} := ⟨nofun, nofun⟩
    obtain ⟨paths, command⟩ := order
    cases command with
    | start s =>
      obtain ⟨after, hafter⟩ :=
        exists_gives (paths.given ++ numbersGiven (some s.buildId) (some s.override))
      have hwords : Order.ofWords env _ = _ := ofWords_start hbefore hafter hnone h
      rw [paths.over_none] at hwords
      exact ⟨_, hwords⟩
    | stopAll =>
      obtain ⟨after, hafter⟩ := exists_gives paths.given
      have hwords : Order.ofWords env _ = _ := ofWords_stopAll hbefore hafter hnone h
      rw [paths.over_none] at hwords
      exact ⟨_, hwords⟩

end Order

end Sandbox.Remote
