-- SUMMARY: Reading the command line of the remote runner.
import Sandbox.Remote.Settings
import Sandbox.Text.Integer

/-!
# The command line

The words of a command line are read from left to right. The options for paths
may stand before and after the command; those of a build belong to `start`. A
value follows its option as the next word or behind `=`. An environment variable
may supply a build that `start` is not given.
-/

namespace Sandbox.Remote

-- ---------------------------------------------------------------------------
-- Options and words
-- ---------------------------------------------------------------------------

inductive CommandName
  | start
  | stopAll
  deriving DecidableEq, Repr

namespace CommandName

def word : CommandName → String
  | .start => "start"
  | .stopAll => "stop-all"

def ofWord? (word : SystemText) : Option CommandName :=
  [start, stopAll].find? fun command => command.word = word

end CommandName

/-- An option that takes a value. -/
inductive Flag
  | directory
  | program
  | buildId
  | override
  deriving DecidableEq, Repr

namespace Flag

def name : Flag → String
  | .directory => "terraform-dir"
  | .program => "terraform-bin"
  | .buildId => "build-id"
  | .override => "build-id-override"

/-- The environment variable that may supply the value. -/
def environmentVariable? : Flag → Option String
  | .buildId => some "SALVO_BUILD_ID"
  | .override => some "SALVO_BUILD_ID_OVERRIDE"
  | _ => none

def isInteger : Flag → Bool
  | .buildId => true
  | .override => true
  | _ => false

/-- The flags that may stand before the command, or after it. -/
def allowed : Option CommandName → List Flag
  | some .start => [.directory, .program, .buildId, .override]
  | _ => [.directory, .program]

end Flag

/-- A word by its form. -/
inductive Word
  /-- The mark `--`, after which nothing is an option. -/
  | terminator
  /-- `--name`, or `--name=value`. -/
  | long (name : SystemText) (value : Option SystemText)
  /-- A hyphen and a letter, and whatever follows. -/
  | short (letter : UInt8)
  | plain
  deriving DecidableEq, Repr

namespace Word

def hyphen : UInt8 := 0x2D

def equalsSign : UInt8 := 0x3D

/-- The name and the value around the first equals sign. -/
def splitValue : List UInt8 → List UInt8 × Option (List UInt8)
  | [] => ([], none)
  | b :: rest =>
    if b = equalsSign then ([], some rest)
    else
      let (name, value) := splitValue rest
      (b :: name, value)

/-- What follows a hyphen. -/
def afterHyphen : List UInt8 → Word
  | [] => .plain
  | b :: rest =>
    if b ≠ hyphen then .short b
    else if rest.isEmpty then .terminator
    else
      let (name, value) := splitValue rest
      .long ⟨name⟩ (value.map .mk)

def ofText (t : SystemText) : Word :=
  match t.bytes with
  | [] => .plain
  | b :: rest => if b = hyphen then afterHyphen rest else .plain

end Word

-- ---------------------------------------------------------------------------
-- Results
-- ---------------------------------------------------------------------------

/-- Why a command line cannot be followed. -/
inductive UsageFault
  | noCommand
  | unknownCommand (word : SystemText)
  | unexpected (word : SystemText)
  | noValue (flag : Flag)
  | emptyValue (flag : Flag)
  | notAnInteger (flag : Flag) (value : String)
  | notUnicode (flag : Flag)
  | repeated (flag : Flag)
  | noBuildId
  deriving DecidableEq, Repr

inductive Command
  | start (selection : Selection)
  | stopAll
  deriving DecidableEq, Repr

/-- A command line that can be followed. -/
structure Order where
  paths : PathFlags
  command : Command
  deriving DecidableEq, Repr

/-- Why reading ends without an order. -/
inductive Stop
  | version
  | help
  | usage (fault : UsageFault)
  deriving DecidableEq, Repr

/-- What help is asked about: all commands, or one that a word has named. -/
inductive HelpTopic
  | program
  | command
  deriving DecidableEq, Repr

/-- Takes the word after `help`, or after a topic. No command has commands of its own. -/
def HelpTopic.narrow : HelpTopic → SystemText → Except UsageFault HelpTopic
  | .program, word =>
    if word = "help" ∨ (CommandName.ofWord? word).isSome then .ok .command
    else .error (.unknownCommand word)
  | .command, word => .error (.unknownCommand word)

-- ---------------------------------------------------------------------------
-- Reading
-- ---------------------------------------------------------------------------

/-- What the words so far have said. -/
structure Reading where
  /-- The paths given before the command. -/
  outer : PathFlags := {}
  /-- The paths given after the command. -/
  inner : PathFlags := {}
  buildId : Option Int64 := none
  override : Option Int64 := none
  command : Option CommandName := none
  /-- The flag whose value must be the next word. -/
  pending : Option Flag := none
  terminated : Bool := false
  /-- What the word `help` in place of a command is followed by. -/
  topic : Option HelpTopic := none
  deriving DecidableEq, Repr

namespace Reading

/-- A value that is given for the first time. -/
def once {α : Type} (flag : Flag) (old : Option α) (new : α) : Except UsageFault (Option α) :=
  if old.isSome then .error (.repeated flag) else .ok (some new)

def integerOf (flag : Flag) (value : SystemText) : Except UsageFault Int64 :=
  match value.text? with
  | none => .error (.notUnicode flag)
  | some text => (Text.integer text).mapError fun _ => .notAnInteger flag text

def assignPath (paths : PathFlags) (flag : Flag) (value : SystemText) :
    Except UsageFault PathFlags :=
  if value.isEmpty then .error (.emptyValue flag)
  else if flag = .directory then
    return { paths with directory := ← once flag paths.directory value }
  else return { paths with program := ← once flag paths.program value }

/-- Takes the value of a flag. -/
def assign (r : Reading) (flag : Flag) (value : SystemText) : Except UsageFault Reading :=
  match flag with
  | .buildId => return { r with buildId := ← once flag r.buildId (← integerOf flag value) }
  | .override => return { r with override := ← once flag r.override (← integerOf flag value) }
  | flag =>
    match r.command with
    | none => return { r with outer := ← assignPath r.outer flag value }
    | some _ => return { r with inner := ← assignPath r.inner flag value }

/-- Whether a word can be the value of a flag that precedes it: one that does not look like
    an option, or a negative integer for a flag that takes integers. -/
def isValue (flag : Flag) (word : SystemText) : Bool :=
  match Word.ofText word with
  | .plain => true
  | .short _ => flag.isInteger && word.text?.any fun text => (Text.integer text).toBool
  | _ => false

def readLong (r : Reading) (word name : SystemText) (value : Option SystemText) :
    Except Stop Reading :=
  match (Flag.allowed r.command).find? (·.name = name), value with
  | some flag, some value => (r.assign flag value).mapError .usage
  | some flag, none => .ok { r with pending := some flag }
  | none, none =>
    if name = "help" then .error .help
    else if name = "version" ∧ r.command = none then .error .version
    else .error (.usage (.unexpected word))
  | none, some _ => .error (.usage (.unexpected word))

def readShort (r : Reading) (word : SystemText) (letter : UInt8) : Except Stop Reading :=
  if letter = 'h'.toUInt8 then .error .help
  else if letter = 'V'.toUInt8 ∧ r.command = none then .error .version
  else .error (.usage (.unexpected word))

def readPlain (r : Reading) (word : SystemText) : Except Stop Reading :=
  match r.command, CommandName.ofWord? word with
  | none, some command => .ok { r with command := some command }
  | none, none =>
    if word = "help" then .ok { r with topic := some .program }
    else .error (.usage (.unknownCommand word))
  | some _, _ => .error (.usage (.unexpected word))

/-- Reads one word. -/
def step (r : Reading) (word : SystemText) : Except Stop Reading :=
  match r.topic, r.pending with
  | some topic, _ => do
    return { r with topic := some (← (topic.narrow word).mapError .usage) }
  | none, some flag =>
    if isValue flag word then ({ r with pending := none }.assign flag word).mapError .usage
    else .error (.usage (.noValue flag))
  | none, none =>
    if r.terminated then .error (.usage (.unexpected word))
    else
      match Word.ofText word with
      | .terminator => .ok { r with terminated := true }
      | .long name value => r.readLong word name value
      | .short letter => r.readShort word letter
      | .plain => r.readPlain word

/-- The value of a flag for integers, which the environment may supply. -/
def supplied (env : Environment) (flag : Flag) (given : Option Int64) :
    Except UsageFault (Option Int64) :=
  match given, flag.environmentVariable? >>= env.value? with
  | some value, _ => .ok (some value)
  | none, some value => return some (← integerOf flag value)
  | none, none => .ok none

/-- The selection of the command `start`. -/
def selection (env : Environment) (r : Reading) : Except UsageFault Selection := do
  let buildId ← supplied env .buildId r.buildId
  let override ← supplied env .override r.override
  let some buildId := buildId | throw .noBuildId
  return ⟨buildId, override.getD 0⟩

/-- The order that all words together give. -/
def finish (env : Environment) (r : Reading) : Except Stop Order := do
  if r.topic.isSome then throw .help
  if let some flag := r.pending then throw (.usage (.noValue flag))
  let paths := r.inner.over r.outer
  match r.command with
  | none => throw (.usage .noCommand)
  | some .start => return ⟨paths, .start (← (r.selection env).mapError .usage)⟩
  | some .stopAll => return ⟨paths, .stopAll⟩

end Reading

/-- Reads a command line, without the name of the program. -/
def Order.ofWords (env : Environment) (words : List SystemText) : Except Stop Order := do
  (← words.foldlM Reading.step {}).finish env

end Sandbox.Remote
