-- SUMMARY: Address books: the addresses that one output lists for each build.
import Sandbox.Address.Printer
import Sandbox.Address.Reader
import Sandbox.BuildId
import Sandbox.Json.Reader
import Sandbox.Text.Quoted

/-!
# Address books

The tool reports, for one slot of every instance, an object whose keys are build
IDs and whose values list addresses. Decoding such a text takes the members in
ascending order of their keys; keys that spell one ID differently share an
entry, and the last of equal keys counts.
-/

namespace Sandbox

/-- The addresses of each build, in the order in which they were listed. -/
abbrev AddressBook := Dict BuildId (List Address)

-- ---------------------------------------------------------------------------
-- Faults
-- ---------------------------------------------------------------------------

/-- Why a text is not an address book. -/
inductive DecodeFault
  /-- It is not a JSON object of lists of strings, as its reader complains. -/
  | malformed (complaint : String := "expected a JSON object of lists of strings")
  | invalidKey (key : String) (fault : Text.IntegerFault)
  | nonPositiveId (id : Int64)
  | noAddresses (id : Int64)
  | invalidAddress (id : Int64) (value : String)
  deriving DecidableEq, Repr

namespace DecodeFault

open Sandbox.Text

def message : DecodeFault → String
  | .malformed complaint => s!"malformed build IP map: {complaint}"
  | .invalidKey key fault =>
    s!"unable to convert build ID {quoted key} to an integer: {fault.message}"
  | .nonPositiveId id => s!"parsed invalid build ID {id}, expected a positive integer"
  | .noAddresses id => s!"build ID {id} has no IP addresses"
  | .invalidAddress id value =>
    s!"in build ID {id}, unable to parse {quoted value} as an IP address"

/-- The messages of what lies behind a fault. -/
def causes : DecodeFault → List String
  | .malformed complaint => [complaint]
  | .invalidKey _ fault => [fault.message]
  | _ => []

end DecodeFault

-- ---------------------------------------------------------------------------
-- Decoding
-- ---------------------------------------------------------------------------

namespace AddressBook

open Sandbox.Json

/-- The lists of a document by key. -/
def listsOf? (d : Document) : Option (Dict String (List String)) :=
  d.dict? Pieces.content? (·.list? Document.string?)

def addressOf (id : Int64) (value : String) : Except DecodeFault Address :=
  match Address.ofText? value with
  | some address => .ok address
  | none => .error (.invalidAddress id value)

/-- The build and the addresses that one member stands for. -/
def entryOf (key : String) (values : List String) :
    Except DecodeFault (BuildId × List Address) := do
  let id ← (Text.integer key).mapError (.invalidKey key)
  let some build := BuildId.ofInt64? id | throw (.nonPositiveId id)
  if values.isEmpty then throw (.noAddresses id)
  return (build, ← values.mapM (addressOf id))

/-- The addresses of a build; none if it is not in the book. -/
def addresses (book : AddressBook) (id : BuildId) : List Address := (book.get? id).getD []

/-- Adds addresses behind those a build already has. -/
def append (book : AddressBook) (id : BuildId) (more : List Address) : AddressBook :=
  book.insert id (book.addresses id ++ more)

def ofLists (lists : Dict String (List String)) : Except DecodeFault AddressBook :=
  lists.entries.foldlM (fun book (key, values) => do
    let (id, more) ← entryOf key values
    return book.append id more) Dict.empty

/-- Decodes the text of an output's value. -/
def decode (raw : String) : Except DecodeFault AddressBook :=
  match Json.read raw >>= listsOf? with
  | some lists => ofLists lists
  | none => .error .malformed

-- ---------------------------------------------------------------------------
-- Messages
-- ---------------------------------------------------------------------------

/-- A list of addresses as messages show it. -/
def listed (as : List Address) : String :=
  "[" ++ ", ".intercalate (as.map Address.text) ++ "]"

/-- A book as messages show it. -/
def shown (book : AddressBook) : String :=
  let entry (id : BuildId) (as : List Address) := s!"BuildId({id}): {listed as}"
  .singleton '{' ++ ", ".intercalate (book.entries.map fun (id, as) => entry id as) ++
    .singleton '}'

end AddressBook
end Sandbox
