-- SUMMARY: A host with a small file tree whose programs behave as a plan says.
import Sandbox.Process

/-!
# Scripted hosts

The current directory is called `home`. It holds the empty directories
`terraform` and `alt` and the file `plainfile`. Of the directory around it and of
the root nothing else is known. On the search path two programs can be run and a
third one may not; what a run yields depends on its first argument only.
-/

namespace Sandbox.Host

/-- The most bytes that a component of a path may have. -/
def componentLimit : Nat := 255

/-- The most bytes that a path may have. -/
def pathLimit : Nat := 4095

/-- A place in the file tree. -/
inductive Place
  | root
  | surroundings
  | home
  | directory (name : String)
  | file
  deriving DecidableEq, Repr

namespace Place

/-- The last component of the path of a place. -/
def name : Place → String
  | .root => ""
  | .surroundings => ".."
  | .home => "home"
  | .directory name => name
  | .file => "plainfile"

/-- What a place is known to hold. -/
def contents : Place → List Place
  | .surroundings => [.home]
  | .home => [.directory "terraform", .directory "alt", .file]
  | _ => []

/-- The directory around a place, if it is known. -/
def parent? : Place → Option Place
  | .root => some .root
  | .home => some .surroundings
  | .directory _ => some .home
  | _ => none

/-- One component further on a path. -/
def step (place : Place) (component : SystemText) : Except SystemFault Place :=
  if place = .file then .error .notADirectory
  else if component = "" ∨ component = "." then .ok place
  else
    let next := if component = ".." then place.parent?
      else place.contents.find? fun held => held.name = component
    match next with
    | some place => .ok place
    | none => .error (if componentLimit < component.length then .nameTooLong else .notFound)

/-- The place that a path leads to from another one. There is no empty path. -/
def follow (place : Place) (path : SystemText) : Except SystemFault Place :=
  if path.isEmpty then .error .notFound
  else if pathLimit < path.length then .error .nameTooLong
  else path.components.foldlM step (if path.isAbsolute then .root else place)

/-- The directory at a path. -/
def directoryOfPath (path : SystemText) : Except SystemFault Place := do
  match ← home.follow path with
  | .file => throw .notADirectory
  | place => return place

end Place

/-- What the runs of a program yield, by first argument. -/
abbrev Plan := List (String × Outcome)

/-- A run that the plan does not mention succeeds and writes nothing. -/
def Plan.outcome (plan : Plan) (arguments : List String) : Outcome :=
  (plan.lookup (arguments.headD "")).getD ⟨.code 0, [], []⟩

def runnablePrograms : List SystemText := ["terraform", "alt-terraform"]

/-- What is found on the search path but may not be run, its directory among it. -/
def forbiddenPrograms : List SystemText := ["noexec-terraform", ".", ".."]

/-- The host on which programs behave as planned. A program with a slash is a path from the
    working directory, and nothing in the file tree may be run. -/
def scripted (plan : Plan) : Host where
  enter path := discard (Place.directoryOfPath path)
  run directory program arguments :=
    if program.hasSeparator then do
      discard ((← Place.directoryOfPath directory).follow program)
      throw .permissionDenied
    else if program ∈ runnablePrograms then .ok (plan.outcome arguments)
    else if program ∈ forbiddenPrograms then .error .permissionDenied
    else if componentLimit < program.length then .error .nameTooLong
    else .error .notFound

end Sandbox.Host
