import AgentRuntimeOps.RootActions.State

/-!
# Submission metadata, limits and the lineage circuit

The value types of `admission.py` and `storage.py` that the store reads and returns, and the
submission policy of `submission.py`.  Where a constructor checks its arguments once and for all
(`LineageFailurePolicy`, `SubmissionPolicy`), the checks are fields of the structure.
-/

namespace AgentRuntimeOps.RootActions

open AgentRuntimeOps.Lib

/-- Source: `storage.py`, `SubmissionMetadata`. -/
structure SubmissionMetadata where
  peerUid : Nat
  peerGid : Nat
  peerPid : Nat
  brokerReceivedAt : String
  deriving DecidableEq, Repr

/-- Source: `storage.py`, `SubmissionLimits`. -/
structure SubmissionLimits where
  maxOpenPerUid : Nat := 8
  maxOpenPerLineage : Nat := 1
  maxJobsPerUidWindow : Nat := 32
  windowSeconds : Nat := 3600
  deriving DecidableEq, Repr

/-- Source: `storage.py`, `LedgerEntry`. -/
structure LedgerEntry where
  sequence : Nat
  action : String
  priorState : Option String
  nextState : String
  recordRevision : Nat
  eventId : String
  occurredAt : String
  jobId : String
  jobDigest : String
  terminalOutcome : Option String
  reasonCode : Option String
  deriving DecidableEq, Repr

/-! ## The lineage circuit -/

/-- Source: `admission.py`, `LineageFailurePolicy`. -/
structure LineageFailurePolicy where
  windowSeconds : Nat := 24 * 60 * 60
  maximumTechnicalFailures : Nat := 2
  technicalReasonCodes : List String :=
    ["handler_contract_failed", "handler_failed", "precondition_mismatch",
      "receipt_publish_failed", "reconcile_failed", "worker_crashed", "worker_lost"]
  circuitReasonCode : String := "technical_failure_circuit_open"
  /-- `lineage failure window must be a positive integer`. -/
  window_pos : 0 < windowSeconds := by decide
  /-- `lineage failure limit must be a positive integer`. -/
  failures_pos : 0 < maximumTechnicalFailures := by decide
  /-- `technical reason allowlist must not be empty`. -/
  reasons_ne_nil : technicalReasonCodes ≠ [] := by decide

/-- `LineageFailurePolicy()` -/
def LineageFailurePolicy.standard : LineageFailurePolicy := {}

/-- How many jobs of a window ended with each terminal outcome, listed by name. -/
structure TerminalCounts where
  canceled : Nat
  expired : Nat
  failed : Nat
  prestartFailed : Nat
  rejected : Nat
  succeeded : Nat
  deriving DecidableEq, Repr

/-- Source: `admission.py`, `LineageSummary`. -/
structure LineageSummary where
  lineageId : String
  measuredAt : String
  windowSeconds : Nat
  submissionCount : Nat
  terminalCounts : TerminalCounts
  technicalFailureCount : Nat
  deriving DecidableEq, Repr

/-- Source: `admission.py`, `LineageSummary.projection`, with the `availability` field that
`status_projection` adds. -/
def LineageSummary.projection (summary : LineageSummary) : Json := .obj [
  ("approval_count", .obj [
    ("availability", .str "unavailable"),
    ("reason", .str "approval_design_not_ratified")]),
  ("availability", .str "measured"),
  ("lineage_id", .str summary.lineageId),
  ("measured_at", .str summary.measuredAt),
  ("measurement_semantics", .str "immutable_root_ledger_window_ending_at_measured_at"),
  ("snapshot_basis", .str "state_last_changed_at"),
  ("source", .str "root_owned_ledger"),
  ("submission_count", .int summary.submissionCount),
  ("technical_failure_count", .int summary.technicalFailureCount),
  ("terminal_counts", .obj [
    ("canceled", .int summary.terminalCounts.canceled),
    ("expired", .int summary.terminalCounts.expired),
    ("failed", .int summary.terminalCounts.failed),
    ("prestart_failed", .int summary.terminalCounts.prestartFailed),
    ("rejected", .int summary.terminalCounts.rejected),
    ("succeeded", .int summary.terminalCounts.succeeded)]),
  ("window_seconds", .int summary.windowSeconds)]

/-- Source: `admission.py`, `SubmissionAdmission`: it is allowed exactly when it has no reason. -/
structure SubmissionAdmission where
  reasonCode : Option String
  summary : LineageSummary
  deriving DecidableEq

/-- `admission.allowed`. -/
def SubmissionAdmission.allowed (admission : SubmissionAdmission) : Bool :=
  admission.reasonCode.isNone

/-! ## The submission policy -/

/-- Source: `submission.py`, `BrokerPeerIdentity`. -/
structure BrokerPeerIdentity where
  uid : Nat
  gid : Nat
  pid : Nat
  deriving DecidableEq, Repr

/-- Source: `submission.py`, `SubmissionPolicy`. -/
structure SubmissionPolicy where
  allowedUids : List Nat
  allowedGids : List Nat
  maximumAgeSeconds : Nat := 900
  maximumFutureSkewSeconds : Nat := 30
  limits : SubmissionLimits := {}
  /-- `submission policy requires an explicit peer allowlist`. -/
  allowlist : allowedUids ≠ [] ∨ allowedGids ≠ []

/-- Source: `submission.py`, `SubmissionPolicy.authorize`. -/
def SubmissionPolicy.authorize (policy : SubmissionPolicy) (job : SealedJob)
    (peer : BrokerPeerIdentity) (brokerReceivedAt : String) : Except Exn SubmissionMetadata := do
  require (peer.uid ∈ policy.allowedUids ∨ peer.gid ∈ policy.allowedGids)
    (Exn.submissionRejected "submission peer is not allowlisted")
  let submitted ← orRaise (DateTime.strptime job.submittedAt)
    (Exn.submissionRejected "submission timestamp is invalid")
  let received ← orRaise (DateTime.strptime brokerReceivedAt)
    (Exn.submissionRejected "submission timestamp is invalid")
  require (received.toSeconds ≤ submitted.toSeconds + policy.maximumAgeSeconds)
    (Exn.submissionRejected "submission manifest is stale")
  require (submitted.toSeconds ≤ received.toSeconds + policy.maximumFutureSkewSeconds)
    (Exn.submissionRejected "submission manifest is from the future")
  return ⟨peer.uid, peer.gid, peer.pid, brokerReceivedAt⟩

end AgentRuntimeOps.RootActions
