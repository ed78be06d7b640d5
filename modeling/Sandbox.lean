import Sandbox.Host.Scripted
import Sandbox.Main
import Sandbox.Proofs.AddressBook.Acceptance
import Sandbox.Proofs.AddressBook.Faults
import Sandbox.Proofs.AddressBook.Order
import Sandbox.Proofs.Assembly.Agreement
import Sandbox.Proofs.Assembly.Faults
import Sandbox.Proofs.Assembly.FirstFault
import Sandbox.Proofs.Assembly.Singly
import Sandbox.Proofs.Assembly.Stepwise
import Sandbox.Proofs.Assignment.Grammar
import Sandbox.Proofs.Cut
import Sandbox.Proofs.Deployment.History
import Sandbox.Proofs.Deployment.Outcome
import Sandbox.Proofs.Deployment.Plan
import Sandbox.Proofs.Instance.Description
import Sandbox.Proofs.Instance.Slots
import Sandbox.Proofs.Integer.Numeral
import Sandbox.Proofs.Json.Compact
import Sandbox.Proofs.Json.Indented
import Sandbox.Proofs.Json.Text
import Sandbox.Proofs.Output
import Sandbox.Proofs.Remote.CommandLine
import Sandbox.Proofs.Remote.Failure
import Sandbox.Proofs.Remote.Flags
import Sandbox.Proofs.Remote.Run
import Sandbox.Proofs.Remote.Settings
import Sandbox.Proofs.Request.Faults
import Sandbox.Proofs.Request.Operations
import Sandbox.Proofs.Terraform
import Sandbox.Proofs.Terraform.Streams
import Sandbox.Proofs.Utf8
import Sandbox.Proofs.Utf8.Order
