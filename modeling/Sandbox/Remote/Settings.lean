-- SUMMARY: The settings of the remote runner: paths, and the build to start.
import Sandbox.BuildId
import Sandbox.Error
import Sandbox.Text.System

/-!
# Settings of the remote runner

Each path is chosen by itself: a flag if there is one, else the environment if
it names a path in Unicode that is not empty, else the default. The build to start is the
one given unless another one, different from zero, is given to override it.
-/

namespace Sandbox.Remote

-- ---------------------------------------------------------------------------
-- The environment
-- ---------------------------------------------------------------------------

/-- The environment variables that are set, with values that need not be Unicode. -/
structure Environment where
  value? : String → Option SystemText

namespace Environment

/-- An environment whose values are all Unicode. -/
def ofTexts (text? : String → Option String) : Environment :=
  ⟨fun name => (text? name).map .ofString⟩

/-- The environment in which no variable is set. -/
instance : EmptyCollection Environment := ⟨⟨fun _ => none⟩⟩

/-- The value of a variable as a text. A value that is not Unicode is passed over, as if the
    variable were not set. -/
def text? (env : Environment) (name : String) : Option String :=
  env.value? name >>= SystemText.text?

end Environment

-- ---------------------------------------------------------------------------
-- Faults
-- ---------------------------------------------------------------------------

/-- What is wrong with the settings. -/
inductive SettingsFault
  | invalidBuildId (id : Int64)
  | negativeOverride (id : Int64)
  | sandbox (error : Error)
  deriving DecidableEq

namespace SettingsFault

def message : SettingsFault → String
  | .invalidBuildId id => s!"--build-id must be a positive integer, got {id}"
  | .negativeOverride id => s!"--build-id-override must not be negative, got {id}"
  | .sandbox error => error.message

/-- The messages of what lies behind a fault. -/
def causes : SettingsFault → List String
  | .sandbox error => error.message :: error.causes
  | _ => []

end SettingsFault

-- ---------------------------------------------------------------------------
-- Paths
-- ---------------------------------------------------------------------------

/-- The paths that flags give. -/
structure PathFlags where
  directory : Option SystemText := none
  program : Option SystemText := none
  deriving DecidableEq, Repr

/-- The paths of `inner`, and those of `outer` where `inner` has none. -/
def PathFlags.over (inner outer : PathFlags) : PathFlags :=
  ⟨inner.directory <|> outer.directory, inner.program <|> outer.program⟩

def directoryVariable : String := "SALVO_TERRAFORM_DIR"

def programVariable : String := "SALVO_TERRAFORM_BIN"

structure Settings where
  directory : SystemText
  program : SystemText
  deriving DecidableEq, Repr

namespace Settings

/-- The value of a variable if it is set to a text that is not empty. -/
def nonempty (env : Environment) (name : String) : Option SystemText :=
  ((env.text? name).filter (!·.isEmpty)).map .ofString

def ofEnvironment (env : Environment) : Settings :=
  let default : Configuration := {}
  ⟨(nonempty env directoryVariable).getD default.directory,
   (nonempty env programVariable).getD default.program⟩

def withFlags (s : Settings) (flags : PathFlags) : Settings :=
  ⟨flags.directory.getD s.directory, flags.program.getD s.program⟩

/-- The configuration of a deployment, if it is a valid one. -/
def configuration (s : Settings) : Except SettingsFault Configuration := do
  let c : Configuration := ⟨s.directory, s.program⟩
  c.validate.mapError fun fault => .sandbox (.configuration fault)
  return c

end Settings

-- ---------------------------------------------------------------------------
-- The build to start
-- ---------------------------------------------------------------------------

structure Selection where
  buildId : Int64
  override : Int64
  deriving DecidableEq, Repr

/-- The build that a selection picks. Both numbers have to be sound, whichever is used. -/
def Selection.resolve (s : Selection) : Except SettingsFault BuildId :=
  if s.buildId ≤ 0 then .error (.invalidBuildId s.buildId)
  else if s.override < 0 then .error (.negativeOverride s.override)
  else
    let id := if s.override ≠ 0 then s.override else s.buildId
    match BuildId.ofInt64? id with
    | some build => .ok build
    | none => .error (.sandbox (.request (.buildIdBelowMinimum id)))

end Sandbox.Remote
