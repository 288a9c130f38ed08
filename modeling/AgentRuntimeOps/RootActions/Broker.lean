import AgentRuntimeOps.RootActions.Worker

/-!
# Submitting a job

`TypedRootActionBroker.submit`: a manifest is sealed and admitted, an automatic job is claimed and
dispatched, and the caller gets the status; a retry of a sealed manifest gets the status only.
-/

namespace AgentRuntimeOps.RootActions

open AgentRuntimeOps.Lib

/-- Source: `broker.py`, `SubmittedJob`. -/
structure SubmittedJob where
  jobId : String
  jobDigest : String
  status : StatusProjection

/-- The notice of a job that ends before it starts. -/
def terminalNotice (job : SealedJob) (outcome reasonCode : String) : Json := .obj [
  ("job_digest", .str job.jobDigest),
  ("job_id", .str job.jobId),
  ("kind", .str "terminal_notice"),
  ("operation_id", .str job.operationId),
  ("reason_code", .str reasonCode),
  ("reply_target", .str job.replyTarget),
  ("request_id", .str job.requestId),
  ("schema", .str receiptSchema),
  ("terminal_outcome", .str outcome)]

/-- The event that closes a pending job. -/
def closeEvent (job : SealedJob) (event : String × String) (outcome : TerminalOutcome)
    (reasonCode : Option String) : TransitionEvent where
  eventId := event.1
  jobId := job.jobId
  jobDigest := job.jobDigest
  expectedRevision := 0
  kind := .closePending
  occurredAt := event.2
  outcome := some outcome
  reasonCode := reasonCode

/-- The event that claims a job. -/
def claimEvent (job : SealedJob) (revision : Nat) (event : String × String) : TransitionEvent where
  eventId := event.1
  jobId := job.jobId
  jobDigest := job.jobDigest
  expectedRevision := revision
  kind := .claimExecution
  occurredAt := event.2
  outcome := none
  reasonCode := none

variable [UnicodeData]

namespace BrokerConfig

variable (cfg : BrokerConfig)

/-- The status of a submission, and the repair of its published copy. -/
def reportSubmitted (job : SealedJob) (record : JobRecord) : Prog SubmittedJob := do
  let receipt ← readOptionalReceipt job
  let status ← cfg.statusProjection job record receipt
  discard (cfg.repairPublic job.jobId none)
  return ⟨job.jobId, job.jobDigest, status⟩

/-- Source: `broker.py`, `_recover_idempotent`. -/
def recoverIdempotent (job : SealedJob) (peer : BrokerPeerIdentity) : Prog SubmittedJob := do
  let existing : SealedJob ← Prog.read (.readSealed job.jobId)
  let metadata ← Prog.read (.submissionMetadata job.jobId)
  Prog.require (existing = job ∧ metadata.peerUid = peer.uid ∧ metadata.peerGid = peer.gid)
    (Exn.brokerContractError "conflicting job retry is blocked")
  let record ← Prog.read (.readRecord job.jobId)
  cfg.reportSubmitted job record

/-- Source: `broker.py`, `_auto_claim_and_dispatch`; the dispatch is the worker's `enqueue`. -/
def autoClaimAndDispatch (job : SealedJob) (record : JobRecord) : Prog JobRecord := do
  let event ← Prog.nextEvent
  let claimed ← Prog.write (.compareAndAppend (claimEvent job record.revision event))
  tryCatch
    (do
      cfg.enqueue claimed.jobId claimed.jobDigest
      return claimed)
    fun _ => tryCatch (Prog.read (.readRecord job.jobId)) fun _ => return claimed

/-- What follows a successful seal. -/
def afterSeal (job : SealedJob) (policy : ExecutionPolicy) (record : JobRecord)
    (allowed : Bool) : Prog SubmittedJob := do
  let record ← if policy.autoDispatch && allowed then cfg.autoClaimAndDispatch job record
    else pure record
  cfg.reportSubmitted job record

/-- The way out of a seal that raised: a `StorageConflict` may be a concurrent submission of the
same manifest. -/
def afterConflict (job : SealedJob) (peer : BrokerPeerIdentity) (exc : Exn) : Prog SubmittedJob :=
  if exc.cls = .storageConflict then
    tryCatch (cfg.recoverIdempotent job peer) fun exc' =>
      if exc'.cls = .storageNotFound then throw exc else throw exc'
  else throw exc

/-- `try seal except StorageConflict: … else: …`. -/
def sealOrRecover {α : Type} (job : SealedJob) (peer : BrokerPeerIdentity) (sealing : Prog α)
    (next : α → Prog SubmittedJob) : Prog SubmittedJob := do
  let sealed ← tryCatch (do let a ← sealing; return Except.ok a) fun exc => return Except.error exc
  match sealed with
  | .ok a => next a
  | .error exc => cfg.afterConflict job peer exc

/-- The rejection of a job whose operation is disabled. -/
def submitRejected (job : SealedJob) (peer : BrokerPeerIdentity) (event : String × String)
    (submission : SubmissionMetadata) (policy : ExecutionPolicy) : Prog SubmittedJob := do
  let close ← Prog.nextEvent
  let notice ← Program.ofExcept (sealReceipt (receiptDocument
    (terminalNotice job "rejected" (policy.reasonCode.getD ""))))
  cfg.sealOrRecover job peer
    (Prog.write (.sealRejected job event.1 event.2 (closeEvent job close .rejected policy.reasonCode)
      notice submission cfg.submissionPolicy.limits))
    fun record => cfg.afterSeal job policy record false

/-- The admission of a job whose operation is enabled. -/
def submitEnabled (job : SealedJob) (peer : BrokerPeerIdentity) (event : String × String)
    (submission : SubmissionMetadata) (policy : ExecutionPolicy) : Prog SubmittedJob := do
  let circuit ← Prog.nextEvent
  let notice ← Program.ofExcept (sealReceipt (receiptDocument
    (terminalNotice job "prestart_failed" cfg.lineageFailurePolicy.circuitReasonCode)))
  cfg.sealOrRecover job peer
    (Prog.write (.sealWithLineageAdmission job event.1 event.2
      (closeEvent job circuit .prestartFailed (some cfg.lineageFailurePolicy.circuitReasonCode))
      notice submission cfg.submissionPolicy.limits cfg.lineageFailurePolicy))
    fun sealed => cfg.afterSeal job policy sealed.1 sealed.2.allowed

/-- The submission of a manifest that is not sealed yet. -/
def submitNew (job : SealedJob) (peer : BrokerPeerIdentity) : Prog SubmittedJob := do
  let event ← Prog.nextEvent
  let submission ← Program.ofExcept (cfg.submissionPolicy.authorize job peer event.2)
  let policy ← Program.ofExcept (cfg.policies.policy job.operationId)
  Prog.require (policy.operationVersion = job.operationVersion)
    (Exn.brokerContractError "execution policy version mismatch")
  if policy.availability = .enabled then cfg.submitEnabled job peer event submission policy
  else cfg.submitRejected job peer event submission policy

/-- `read_sealed` that finds nothing, or something. -/
def isSealed (jobId : String) : Prog Bool :=
  tryCatch
    (do
      discard (Prog.read (.readSealed jobId))
      return true)
    fun exc => if exc.cls = .storageNotFound then return false else throw exc

/-- Source: `broker.py`, `submit`. -/
def submit (manifest : Document) (peer : BrokerPeerIdentity) : Prog SubmittedJob := do
  let job ← Program.ofExcept (sealTypedManifest manifest)
  let existing ← isSealed job.jobId
  if existing then cfg.recoverIdempotent job peer else cfg.submitNew job peer

end BrokerConfig

end AgentRuntimeOps.RootActions
