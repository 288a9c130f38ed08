import AgentRuntimeOps.Lib.Program
import AgentRuntimeOps.RootActions.Execution
import AgentRuntimeOps.RootActions.Projection
import AgentRuntimeOps.RootActions.StoreOps

/-!
# What a program of the broker can do

The programs of the broker, the worker and the authorization service are sequences of operations:
a read of the store, a call of one of its writing methods, an event of the clock, a call of
something outside (a handler, the publisher, the verifier) or a step on the state of the process
(its queue, its worker thread, its memory of publications, its listener).

Every operation is one step of the system.  A store method is one transaction, so other programs
run between two operations of a program but not inside one.
-/

namespace AgentRuntimeOps.RootActions

open AgentRuntimeOps.Lib

/-! ## Reads -/

/-- The reading methods of `PosixRootActionStore`. -/
inductive StoreRead where
  | readSealed (jobId : String)
  | readRecord (jobId : String)
  | readLedger (jobId : String)
  | retrieve (jobId jobDigest : String)
  | lineageSummary (lineageId measuredAt : String) (policy : LineageFailurePolicy)
  | submissionMetadata (jobId : String)
  | listJobIds
  | runningJobIds
  | catalogJobIds (limit : Nat)
  | readCeremony (ceremonyId : String)
  | readCredential (credentialId : List UInt8)
  | activeCredentials (role : CredentialRole)
  | readAuthBootstrap (bootstrapId : String)
  | readAuthBootstrapByToken (tokenDigest : String)

namespace StoreRead

/-- What a method returns. -/
def Res : StoreRead → Type
  | readSealed .. => SealedJob
  | readRecord .. => JobRecord
  | readLedger .. => List LedgerEntry
  | retrieve .. => ReceiptArtifact
  | lineageSummary .. => LineageSummary
  | submissionMetadata .. => SubmissionMetadata
  | listJobIds | runningJobIds => List String
  | catalogJobIds .. => List String × Nat
  | readCeremony .. => PendingCeremony
  | readCredential .. => RegisteredCredential
  | activeCredentials .. => List RegisteredCredential
  | readAuthBootstrap .. | readAuthBootstrapByToken .. => BootstrapSession

/-- What a method answers. -/
def run [UnicodeData] : (r : StoreRead) → Store → Except Exn r.Res
  | readSealed jobId, s => s.readSealed jobId
  | readRecord jobId, s => s.readRecord jobId
  | readLedger jobId, s => s.readLedger jobId
  | retrieve jobId jobDigest, s => s.retrieve jobId jobDigest
  | lineageSummary lineageId measuredAt policy, s => s.lineageSummary lineageId measuredAt policy
  | submissionMetadata jobId, s => s.submissionMetadata jobId
  | listJobIds, s => .ok s.listJobIds
  | runningJobIds, s => .ok s.runningJobIds
  | catalogJobIds limit, s => .ok (s.catalogJobIds limit)
  | readCeremony ceremonyId, s => s.readCeremony ceremonyId
  | readCredential credentialId, s => s.readCredential credentialId
  | activeCredentials role, s => s.activeCredentials role
  | readAuthBootstrap bootstrapId, s => s.readAuthBootstrap bootstrapId
  | readAuthBootstrapByToken tokenDigest, s => s.bootstrapByToken tokenDigest

end StoreRead

/-! ## Operations -/

/-- A browser message, as the verifier gets it. -/
abbrev BrowserCredential := Json

/-- The calls of `WebAuthnVerifier`, which lives outside. -/
inductive VerifierCall where
  | registrationOptions (ceremony : PendingCeremony) (excluded : List RegisteredCredential)
  | authenticationOptions (ceremony : PendingCeremony) (credentials : List RegisteredCredential)
  | credentialId (message : BrowserCredential)
  | verifyRegistration (ceremony : PendingCeremony) (message : BrowserCredential)
      (registeredAt : String)
  | verifyAssertion (ceremony : PendingCeremony) (message : BrowserCredential)
      (credential : RegisteredCredential)

/-- What the verifier returns. -/
def VerifierCall.Res : VerifierCall → Type
  | registrationOptions .. | authenticationOptions .. => Json
  | credentialId .. => List UInt8
  | verifyRegistration .. => RegisteredCredential
  | verifyAssertion .. => VerifiedAssertion

/-- One operation of a program. -/
inductive Op where
  | read (r : StoreRead)
  | write (w : StoreWrite)
  /-- `next_event()` of the event source. -/
  | nextEvent
  /-- `secrets.token_bytes(count)`. -/
  | tokenBytes (count : Nat)
  | verify (v : VerifierCall)
  /-- `handler.run(job)`. -/
  | runHandler (job : SealedJob)
  /-- `publish(bundle)` of the public sink. -/
  | publish (bundle : PublicProjectionBundle)
  /-- `publish_catalog(bundles, authority_job_count=count)` of the public sink. -/
  | publishCatalog (bundles : List PublicProjectionBundle) (count : Nat)
  /-- The revision and digest that the process remembers to have published for a job. -/
  | published (jobId : String)
  /-- `_remember_publication`. -/
  | remember (bundle : PublicProjectionBundle)
  /-- `self._thread is not None and self._thread.is_alive()`. -/
  | workerAlive
  /-- `self._queue.put_nowait((job_id, job_digest))`: `false` when the queue is full. -/
  | putNowait (jobId jobDigest : String)
  /-- `worker.start()`. -/
  | startWorker
  /-- `listener.open()`. -/
  | openListener

/-- What an operation answers. -/
def Op.Res : Op → Type
  | read r => r.Res
  | write w => w.Res
  | nextEvent => String × String
  | tokenBytes _ => List UInt8
  | verify v => v.Res
  | runHandler _ => HandlerResult
  | publish _ | publishCatalog .. | remember _ | startWorker | openListener => Unit
  | published _ => Option (Nat × String)
  | workerAlive => Bool
  | putNowait .. => Bool

/-- A program of the broker. -/
abbrev Prog := Program Op Op.Res Exn

namespace Prog

/-- A method of the store that reads. -/
abbrev read (r : StoreRead) : Prog r.Res := Program.perform (Op.read r)

/-- A method of the store that writes. -/
abbrev write (w : StoreWrite) : Prog w.Res := Program.perform (Op.write w)

/-- `next_event()`. -/
abbrev nextEvent : Prog (String × String) := Program.perform Op.nextEvent

/-- `self._thread is not None and self._thread.is_alive()`. -/
abbrev workerAlive : Prog Bool := Program.perform Op.workerAlive

/-- `self._queue.put_nowait((job_id, job_digest))`. -/
abbrev putNowait (jobId jobDigest : String) : Prog Bool :=
  Program.perform (Op.putNowait jobId jobDigest)

/-- What the process remembers to have published. -/
abbrev published (jobId : String) : Prog (Option (Nat × String)) :=
  Program.perform (Op.published jobId)

/-- `self._public_sink.publish(bundle)`. -/
abbrev publish (bundle : PublicProjectionBundle) : Prog Unit := Program.perform (Op.publish bundle)

/-- `self._public_sink.publish_catalog(bundles, authority_job_count=count)`. -/
abbrev publishCatalog (bundles : List PublicProjectionBundle) (count : Nat) : Prog Unit :=
  Program.perform (Op.publishCatalog bundles count)

/-- `self._remember_publication(bundle)`. -/
abbrev remember (bundle : PublicProjectionBundle) : Prog Unit :=
  Program.perform (Op.remember bundle)

/-- Raise unless a condition holds. -/
abbrev require (c : Prop) [Decidable c] (exc : Exn) : Prog Unit :=
  Program.ofExcept (Lib.require c exc)

end Prog

end AgentRuntimeOps.RootActions
