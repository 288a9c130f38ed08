import AgentRuntimeOps.RootActions.PosixStore

/-!
# Read-only projections of a job

`projection.py` and the building half of `public_projection.py`: the status and the history of a
job, and the public envelope that carries both with the receipt.  The dictionaries of the source
are structures here; `json` writes the dictionary they stand for, and the byte limit of the
envelope is measured on it.
-/

namespace AgentRuntimeOps.RootActions

open AgentRuntimeOps.Lib

/-! ## Status -/

/-- The value of `status_projection`. -/
structure StatusProjection where
  /-- The `job` section; its manifest parts are read from the canonical manifest. -/
  job : SealedJob
  /-- The `state` section. -/
  state : JobRecord
  lineage : Option LineageSummary
  /-- Kind and digest of the receipt. -/
  receipt : Option (String × String)
  deriving DecidableEq

/-- The checks of `status_projection` on a receipt. -/
def checkStatusReceipt [UnicodeData] (job : SealedJob) (record : JobRecord)
    (receipt : ReceiptArtifact) : Except Exn Unit := do
  let verified ← convert (sealReceipt (Document.canonical receipt.canonicalReceipt))
    (·.cls = .receiptValidationError) (Exn.projectionError "receipt bytes are invalid")
  require (verified = receipt)
    (Exn.projectionError "receipt metadata does not match canonical bytes")
  require (receipt.jobId = job.jobId ∧ receipt.jobDigest = job.jobDigest ∧
      receipt.operationId = job.operationId ∧ receipt.requestId = job.requestId ∧
      receipt.replyTarget = job.replyTarget)
    (Exn.projectionError "receipt job identity mismatch")
  require (record.state.isFinal) (Exn.projectionError "non-final state cannot expose a receipt")
  require (record.state = .unknown → receipt.kind = "unknown")
    (Exn.projectionError "unknown state requires an unknown receipt")
  require (record.state = .terminal → receipt.kind ≠ "unknown")
    (Exn.projectionError "terminal state cannot expose an unknown receipt")
  require (receipt.canonicalReceipt.field "terminal_outcome" =
      .ofOption (record.terminalOutcome.map (·.value)))
    (Exn.projectionError "receipt terminal outcome mismatch")
  require (receipt.kind = "unknown" ∨ receipt.kind = "terminal_notice" →
      receipt.canonicalReceipt.field "reason_code" = .ofOption record.reasonCode)
    (Exn.projectionError "receipt reason_code mismatch")

/-- Source: `projection.py`, `status_projection`. -/
def statusProjection [UnicodeData] (job : SealedJob) (record : JobRecord)
    (receipt : Option ReceiptArtifact) (lineage : Option LineageSummary) :
    Except Exn StatusProjection := do
  validateRecord record
  require (record.jobId = job.jobId ∧ record.jobDigest = job.jobDigest)
    (Exn.projectionError "ledger record job identity mismatch")
  match receipt with
  | none => .ok ()
  | some receipt => checkStatusReceipt job record receipt
  return ⟨job, record, lineage, receipt.map fun r => (r.kind, r.receiptDigest)⟩

/-- The dictionary of a status projection. -/
def StatusProjection.json (status : StatusProjection) : Json := .obj [
  ("job", .obj [
    ("expected_pre_state", status.job.canonicalManifest.field "expected_pre_state"),
    ("job_digest", .str status.job.jobDigest),
    ("job_id", .str status.job.jobId),
    ("lineage_id", .str status.job.lineageId),
    ("operation_id", .str status.job.operationId),
    ("operation_version", .int status.job.operationVersion),
    ("parameters", status.job.canonicalManifest.field "parameters"),
    ("reply_target", .str status.job.replyTarget),
    ("request_id", .str status.job.requestId),
    ("review", status.job.canonicalManifest.field "review"),
    ("submitted_at", .str status.job.submittedAt)]),
  ("lineage_24h", match status.lineage with
    | some summary => summary.projection
    | none => .obj [("availability", .str "unavailable"),
        ("reason", .str "root_owned_ledger_summary_not_supplied")]),
  ("receipt", match status.receipt with
    | some (kind, digest) => .obj [("kind", .str kind), ("receipt_digest", .str digest)]
    | none => .null),
  ("schema", .str "agent-runtime-root-action-status/v1"),
  ("state", .obj [
    ("execution_count", .int status.state.executionCount),
    ("last_changed_at", .str status.state.lastChangedAt),
    ("name", .str status.state.state.value),
    ("reason_code", .ofOption status.state.reasonCode),
    ("revision", .int status.state.revision),
    ("terminal_outcome", .ofOption (status.state.terminalOutcome.map (·.value)))])]

/-! ## History -/

/-- The value of `history_projection`. -/
structure HistoryProjection where
  jobId : String
  jobDigest : String
  events : List LedgerEntry
  deriving DecidableEq

/-- The loop state of `history_projection`. -/
structure HistoryState where
  priorSequence : Nat
  priorRecord : Option JobRecord
  projected : List LedgerEntry

/-- `TerminalOutcome(text)` where there is a text. -/
def outcomeOfText : Option String → Except Exn (Option TerminalOutcome)
  | none => .ok none
  | some text => do
    let outcome ← orRaise (TerminalOutcome.ofValue? text)
      (Exn.valueError (text ++ " is not a valid TerminalOutcome"))
    return some outcome

/-- The event that `history_projection` derives from a ledger row. -/
def entryEvent (prior : JobRecord) (entry : LedgerEntry) : Except Exn TransitionEvent := do
  let kind ← orRaise (TransitionKind.ofValue? entry.action)
    (Exn.valueError (entry.action ++ " is not a valid TransitionKind"))
  let outcome ← outcomeOfText entry.terminalOutcome
  return {
    eventId := entry.eventId
    jobId := entry.jobId
    jobDigest := entry.jobDigest
    expectedRevision := prior.revision
    kind := kind
    occurredAt := entry.occurredAt
    outcome := outcome
    reasonCode := entry.reasonCode }

/-- The record that the first row of a history yields. -/
def historyInitial (job : SealedJob) (entry : LedgerEntry) : Except Exn JobRecord := do
  require (entry.action = "sealed_pending" ∧ entry.priorState = none ∧
      entry.nextState = "pending" ∧ entry.recordRevision = 0 ∧ entry.terminalOutcome = none ∧
      entry.reasonCode = none)
    (Exn.projectionError "history does not begin with sealed pending state")
  convert (initialRecord job entry.eventId entry.occurredAt) Exn.isValueError
    (Exn.projectionError "history initial event is invalid")

/-- The record that a further row of a history yields. -/
def historyNext (prior : JobRecord) (entry : LedgerEntry) : Except Exn JobRecord := do
  let next ← convert (entryEvent prior entry >>= applyTransition prior)
    (fun exc => exc.isValueError || exc.isKeyError)
    (Exn.projectionError "history transition is invalid")
  require (entry.priorState = some prior.state.value ∧ entry.nextState = next.state.value ∧
      entry.recordRevision = next.revision ∧
      entry.terminalOutcome = next.terminalOutcome.map (·.value) ∧
      entry.reasonCode = next.reasonCode)
    (Exn.projectionError "history transition projection mismatch")
  return next

/-- One iteration of the loop of `history_projection`. -/
def historyStep (job : SealedJob) (st : HistoryState) (entry : LedgerEntry) :
    Except Exn HistoryState := do
  require (entry.jobId = job.jobId ∧ entry.jobDigest = job.jobDigest)
    (Exn.projectionError "history job identity mismatch")
  require (st.priorSequence < entry.sequence)
    (Exn.projectionError "history sequence is not increasing")
  let record ← match st.priorRecord with
    | none => historyInitial job entry
    | some prior => historyNext prior entry
  return ⟨entry.sequence, some record, st.projected ++ [entry]⟩

/-- Source: `projection.py`, `history_projection`. -/
def historyProjection (job : SealedJob) (entries : List LedgerEntry) :
    Except Exn HistoryProjection := do
  require (entries ≠ []) (Exn.projectionError "history cannot be empty")
  let st ← entries.foldlM (historyStep job) ⟨0, none, []⟩
  return ⟨job.jobId, job.jobDigest, st.projected⟩

/-- The dictionary of one history event. -/
def eventJson (entry : LedgerEntry) : Json := .obj [
  ("action", .str entry.action),
  ("event_id", .str entry.eventId),
  ("next_state", .str entry.nextState),
  ("occurred_at", .str entry.occurredAt),
  ("prior_state", .ofOption entry.priorState),
  ("reason_code", .ofOption entry.reasonCode),
  ("record_revision", .int entry.recordRevision),
  ("sequence", .int entry.sequence),
  ("terminal_outcome", .ofOption entry.terminalOutcome)]

/-- The dictionary of a history projection. -/
def HistoryProjection.json (history : HistoryProjection) : Json := .obj [
  ("events", .arr (history.events.map eventJson)),
  ("job_digest", .str history.jobDigest),
  ("job_id", .str history.jobId),
  ("schema", .str "agent-runtime-root-action-history/v1")]

/-! ## The public envelope -/

/-- Source: `public_projection.py`, `PUBLIC_PROJECTION_MAX_BYTES`. -/
def publicProjectionMaxBytes : Nat := 3 * 1024 * 1024

/-- Source: `broker.py`, `PublicProjectionBundle`, with the values its bytes spell. -/
structure PublicProjectionBundle where
  jobId : String
  jobDigest : String
  status : StatusProjection
  history : HistoryProjection
  receipt : Option Json
  projectionDigest : String
  deriving DecidableEq

/-- The payload that `build_public_projection` digests. -/
def publicPayload (jobId jobDigest : String) (status : StatusProjection)
    (history : HistoryProjection) (receipt : Option Json) : Json := .obj [
  ("history", history.json),
  ("job_digest", .str jobDigest),
  ("job_id", .str jobId),
  ("receipt", receipt.getD .null),
  ("schema", .str "agent-runtime-root-action-public-projection/v1"),
  ("status", status.json)]

/-- The payload with its digest: the published envelope. -/
def publicEnvelope (jobId jobDigest : String) (status : StatusProjection)
    (history : HistoryProjection) (receipt : Option Json) (digest : String) : Json := .obj [
  ("history", history.json),
  ("job_digest", .str jobDigest),
  ("job_id", .str jobId),
  ("projection_digest", .str digest),
  ("receipt", receipt.getD .null),
  ("schema", .str "agent-runtime-root-action-public-projection/v1"),
  ("status", status.json)]

/-- The digest of a public projection. -/
def projectionDigestOf (payload : Json) : String :=
  sha256Digest (tagged "agent-runtime-root-action-public-projection/v1"
    (canonicalManifestBytes payload))

/-- Source: `public_projection.py`, `build_public_projection`. -/
def buildPublicProjection [UnicodeData] (jobId jobDigest : String) (status : StatusProjection)
    (history : HistoryProjection) (receipt : Option ReceiptArtifact) :
    Except Exn PublicProjectionBundle := do
  require (status.job.jobId = jobId ∧ status.job.jobDigest = jobDigest ∧
      history.jobId = jobId ∧ history.jobDigest = jobDigest)
    (Exn.publicProjectionError "public projection identity mismatch")
  match receipt with
  | none => .ok ()
  | some receipt => do
    let verified ← sealReceipt (Document.canonical receipt.canonicalReceipt)
    require (verified = receipt) (Exn.publicProjectionError "public receipt metadata mismatch")
    require (receipt.jobId = jobId ∧ receipt.jobDigest = jobDigest ∧
        receipt.requestId = status.job.requestId ∧ receipt.replyTarget = status.job.replyTarget)
      (Exn.publicProjectionError "public receipt identity mismatch")
  let receiptValue := receipt.map (·.canonicalReceipt)
  let digest := projectionDigestOf (publicPayload jobId jobDigest status history receiptValue)
  let envelope := publicEnvelope jobId jobDigest status history receiptValue digest
  require ((canonicalManifestBytes envelope).length ≤ publicProjectionMaxBytes)
    (Exn.publicProjectionError "public projection exceeds its byte limit")
  return ⟨jobId, jobDigest, status, history, receiptValue, digest⟩

end AgentRuntimeOps.RootActions
