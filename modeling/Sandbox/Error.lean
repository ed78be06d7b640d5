-- SUMMARY: The errors of starting, describing and stopping sandboxes.
import Sandbox.AddressBook
import Sandbox.Configuration
import Sandbox.Machine
import Sandbox.Process
import Sandbox.Request.Fault
import Sandbox.Stage
import Sandbox.Text.Blank
import Sandbox.Text.Cut

/-!
# Errors

Every error is the fault behind it; `Error.message` is its text and
`Error.causes` the texts of what lies behind it, outermost first.
-/

namespace Sandbox

-- ---------------------------------------------------------------------------
-- Faults of outputs
-- ---------------------------------------------------------------------------

/-- Why the tool's outputs do not describe the requested instances. -/
inductive AssemblyFault
  | noTopology
  | noInstances (topology : Topology)
  | buildIdBelowMinimum (id : Int64)
  | unsupportedTopology (topology : Topology)
  | missingOutput (output : String)
  | missingInstance (id : BuildId) (output : String) (book : AddressBook)
  | wrongCount (id : BuildId) (output : String) (wanted : Nat) (addresses : List Address)
  | noMachine (topology : Topology) (role : Role) (index : Nat)
  /-- A fault that a tool describes in its own words. -/
  | described (text : String)
  deriving DecidableEq

open Sandbox.Text AddressBook in
def AssemblyFault.message : AssemblyFault → String
  | .noTopology => "at least one sandbox type has to be specified"
  | .noInstances topology =>
    s!"no instances specified for sandbox type {topology}, at least one instance must be specified"
  | .buildIdBelowMinimum id =>
    s!"invalid sandbox request: {(RequestFault.buildIdBelowMinimum id).message}"
  | .unsupportedTopology topology => s!"unsupported sandbox type {topology}"
  | .missingOutput output => s!"Terraform output doesn't contain variable {quoted output}"
  | .missingInstance id output book =>
    s!"Terraform output doesn't contain sandbox instance {id} in variable {quoted output}, got {shown book}"
  | .wrongCount id output wanted addresses =>
    s!"Terraform returned invalid number({addresses.length}) of IPs in sandbox instance {id}, " ++
      s!"variable {quoted output}, wanted {wanted}, got ips: {listed addresses}"
  | .noMachine topology role index => s!"sandbox type {topology} has no {role} VM {index}"
  | .described text => text

-- ---------------------------------------------------------------------------
-- Faults of commands
-- ---------------------------------------------------------------------------

/-- A command of the tool that did not succeed. -/
inductive CommandFault
  | failed (command : String) (status : ExitStatus) (stderr : List UInt8)
  /-- A fault that a tool describes in its own words. -/
  | described (text : String)
  deriving DecidableEq, Repr

namespace CommandFault

/-- The number of bytes of a tool's complaints that a message quotes. -/
def quotedBytes : Nat := 4096

/-- What a message quotes of the bytes on standard error. -/
def complaint (stderr : List UInt8) : String :=
  Text.cut quotedBytes (Text.trim (Text.Utf8.lossy stderr))

def message : CommandFault → String
  | .failed command status stderr =>
    s!"terraform {command} => {status.message}: {complaint stderr}"
  | .described text => text

end CommandFault

-- ---------------------------------------------------------------------------
-- Errors
-- ---------------------------------------------------------------------------

inductive Error
  /-- The request is malformed. -/
  | request (fault : RequestFault)
  /-- An output does not hold an address book. -/
  | decode (output raw : String) (fault : DecodeFault)
  /-- The outputs do not describe the requested instances. -/
  | assembly (fault : AssemblyFault)
  /-- The tool failed at a stage, with the message of its own error. -/
  | tool (stage : Stage) (message : String)
  | command (fault : CommandFault)
  | configuration (fault : ConfigurationFault)
  /-- A text is not the JSON that was expected, as its reader complains. -/
  | json (complaint : String := "unexpected JSON")
  | system (fault : SystemFault)
  deriving DecidableEq

namespace Error

def message : Error → String
  | .request fault => s!"invalid sandbox request: {fault.message}"
  | .decode output raw fault =>
    s!"decoding Terraform output {Text.quoted output}: {fault.message}, raw json: {Text.quoted raw}"
  | .assembly fault => s!"parsing sandbox instances: {fault.message}"
  | .tool stage message => s!"{stage} failed: {message}"
  | .command fault => fault.message
  | .configuration fault => s!"configuration error: {fault.message}"
  | .json complaint => s!"JSON error: {complaint}"
  | .system fault => s!"I/O error: {fault.message}"

/-- The messages of what lies behind an error. -/
def causes : Error → List String
  | .decode _ _ fault => fault.message :: fault.causes
  | .json complaint => [complaint]
  | .system fault => [fault.message]
  | _ => []

/-- Whether the error arose before the tool was used at all. -/
def isValidation : Error → Bool
  | .request _ => true
  | .configuration _ => true
  | _ => false

/-- The stage at which the tool failed, if it did. -/
def stage? : Error → Option Stage
  | .tool stage _ => some stage
  | _ => none

/-- Whether the tool failed. -/
def isToolFailure (e : Error) : Bool := e.stage?.isSome

end Error
end Sandbox
