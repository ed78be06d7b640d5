-- SUMMARY: Assembling sandbox instances from the tool's outputs.
import Sandbox.Error
import Sandbox.Output
import Sandbox.Request
import Sandbox.Topology.Bindings

/-!
# Assembly

The outputs bound to a topology are decoded once each, in the order of its
bindings. After that the requested builds are taken in request order, and for
each of them the bindings again: a build must be in every book with the right
number of addresses, the first of which goes into the slot. A topology without
bindings, or a binding to a machine that its instances lack, would be a fault.
-/

namespace Sandbox

/-- A binding together with the decoded value of its output. -/
structure BoundBook where
  binding : Binding
  book : AddressBook

namespace Binding

/-- Looks up the output of a binding and decodes it. -/
def decode (b : Binding) (outputs : Outputs) : Except Error BoundBook := do
  let some output := outputs.get? b.output
    | throw (.assembly (.missingOutput b.output))
  let book ← (AddressBook.decode output.value).mapError (.decode b.output output.value)
  return ⟨b, book⟩

end Binding

namespace BoundBook

/-- The addresses of a build, which must be as many as wanted. -/
def addresses (b : BoundBook) (wanted : Nat) (id : BuildId) :
    Except AssemblyFault (List Address) :=
  match b.book.get? id with
  | none => .error (.missingInstance id b.binding.output b.book)
  | some as =>
    if as.length = wanted then .ok as
    else .error (.wrongCount id b.binding.output wanted as)

end BoundBook

namespace Topology

/-- Fills the slot of a binding with the address of a build. -/
def fill (t : Topology) (id : BuildId) (i : Instance) (b : BoundBook) :
    Except AssemblyFault Instance := do
  let as ← b.addresses t.addressesPerOutput id
  let slot := b.binding.slot
  if (i.machine? slot.role slot.index).isNone then throw (.noMachine t slot.role slot.index)
  return i.set slot as.head?

/-- The instance of one build. -/
def assembleInstance (t : Topology) (books : List BoundBook) (id : BuildId) :
    Except AssemblyFault Instance :=
  books.foldlM (t.fill id) t.placeholder

/-- The instances of a list of builds. -/
def assembleAll (t : Topology) (books : List BoundBook) (ids : List BuildId) :
    Except AssemblyFault Instances :=
  ids.foldlM (fun found id => return found.insert id (← t.assembleInstance books id)) Dict.empty

/-- The instances of a topology that the outputs describe. -/
def assemble (t : Topology) (ids : List BuildId) (outputs : Outputs) :
    Except Error Instances := do
  let books ← t.bindings.mapM (·.decode outputs)
  (t.assembleAll books ids).mapError .assembly

end Topology

namespace Request

/-- The builds listed for one topology, all of which must be positive. -/
def buildIds (topology : Topology) (ids : List Int64) :
    Except AssemblyFault (List BuildId) :=
  if ids.isEmpty then .error (.noInstances topology)
  else ids.mapM fun id =>
    match BuildId.ofInt64? id with
    | some build => .ok build
    | none => .error (.buildIdBelowMinimum id)

/-- The requested instances by build, where each topology's are assembled in a given way. -/
def assembleBy (assembleTopology : Topology → List BuildId → Except Error Instances)
    (r : Request) : Except Error Instances := do
  if r.isEmpty then throw (.assembly .noTopology)
  r.entries.foldlM (fun found (topology, ids) => do
    let ids ← (buildIds topology ids).mapError .assembly
    if topology ∉ Topology.supported then throw (.assembly (.unsupportedTopology topology))
    return found.union (← assembleTopology topology ids)) Dict.empty

/-- The requested instances that the outputs describe. -/
def assemble (r : Request) (outputs : Outputs) : Except Error Instances :=
  r.assembleBy fun topology ids => topology.assemble ids outputs

end Request
end Sandbox
