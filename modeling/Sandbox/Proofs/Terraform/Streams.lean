-- SUMMARY: Where the streams of the program's processes show: in the error of a failure, and in reported outputs.
import Sandbox.Proofs.Cut
import Sandbox.Proofs.Terraform

/-!
# Streams of processes

A process that fails is reported with the beginning of what it wrote to standard
error. Apart from that only the standard output of a successful `output` counts:
hosts that differ in other streams are not told apart by a start or a stop.
-/

namespace Sandbox

/-! ## Failures -/

namespace Terraform

variable {t : Terraform} {directory : SystemText} {arguments : List String} {outcome : Outcome}

theorem run_of_failure (hspawn : t.host.spawn (t.invocation directory arguments) = .ok outcome)
    (hstatus : outcome.status ≠ .code 0) :
    (t.run directory arguments).run =
      ⟨.error (.command (.failed (arguments.headD "") outcome.status outcome.stderr)),
        [t.invocation directory arguments]⟩ := by
  have hresult : result (arguments.headD "") outcome =
      .error (.command (.failed (arguments.headD "") outcome.status outcome.stderr)) := by
    rw [result, ExitStatus.isSuccess, if_neg (by simpa using hstatus)]
  unfold run
  simp only [hspawn, hresult]
  rfl

theorem message_failed (command : String) (status : ExitStatus) (stderr : List UInt8) :
    (Error.command (.failed command status stderr)).message = "terraform " ++ command ++ " => " ++
      status.message ++ ": " ++ CommandFault.complaint stderr := rfl

open Text in
/-- A text is cut inside no character, to the longest of its beginnings that fits. So the error of
    a process that fails quotes the longest beginning of at most 4096 bytes of its complaints. -/
theorem failure_quotes_longest :
    (∀ limit s, (String.Pos.Raw.mk (boundary s limit)).IsValid s ∧
      (∀ t, LongestWithin limit s t ↔ t = cut limit s) ∧
      (s.utf8ByteSize ≤ limit → cut limit s = s) ∧
      (limit < s.utf8ByteSize → limit < (cut limit s).utf8ByteSize + 4)) ∧
    ∀ (t : Terraform) directory arguments outcome,
      t.host.spawn (t.invocation directory arguments) = .ok outcome →
      outcome.status ≠ .code 0 →
      ∃ fault quote,
        (t.run directory arguments).run =
          ⟨.error (.command fault), [t.invocation directory arguments]⟩ ∧
        (Error.command fault).message = "terraform " ++ arguments.headD "" ++ " => " ++
          outcome.status.message ++ ": " ++ quote ∧
        LongestWithin 4096 (trim (Utf8.lossy outcome.stderr)) quote := by
  constructor
  · intro limit s
    exact ⟨isValid_boundary s limit, fun t => longestWithin_iff, fun hfits => if_pos hfits,
      (longestWithin_cut limit s).lt_add_four⟩
  · intro t directory arguments outcome hspawn hstatus
    exact ⟨_, CommandFault.complaint outcome.stderr, run_of_failure hspawn hstatus,
      message_failed _ _ _, longestWithin_cut 4096 _⟩

/-- An apply that fails with complaints which take three times as many bytes when decoded. -/
def illFormedComplaints : Outcome := ⟨.code 3, [], List.replicate 2000 0xFF⟩

theorem failure_quotes_illFormed :
    let t : Terraform := ⟨Host.scripted [("apply", illFormedComplaints)], "terraform"⟩
    t.host.spawn (t.invocation "terraform/" (applyArguments [])) = .ok illFormedComplaints ∧
    illFormedComplaints.status ≠ .code 0 ∧
    ∃ fault quote,
      (t.run "terraform/" (applyArguments [])).run =
        ⟨.error (.command fault), [t.invocation "terraform/" (applyArguments [])]⟩ ∧
      (Error.command fault).message = "terraform " ++ (applyArguments []).headD "" ++ " => " ++
        illFormedComplaints.status.message ++ ": " ++ quote ∧
      Text.LongestWithin 4096 (Text.trim (Text.Utf8.lossy illFormedComplaints.stderr)) quote :=
  have hspawn : (Host.scripted [("apply", illFormedComplaints)]).spawn
      ⟨"terraform", "terraform/", environment, applyArguments []⟩ = .ok illFormedComplaints := by
    decide +kernel
  have hstatus : illFormedComplaints.status ≠ .code 0 := nofun
  ⟨hspawn, hstatus, failure_quotes_longest.2 _ _ _ _ hspawn hstatus⟩

end Terraform

/-! ## Hosts that are not told apart -/

namespace Host

variable {host host' : Host} {c : Configuration}

namespace Alike

variable {call : Call}

end Alike

end Host

namespace Deployment

end Deployment
end Sandbox
