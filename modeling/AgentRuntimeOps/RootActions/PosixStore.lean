import AgentRuntimeOps.RootActions.Tables

/-!
# The store: jobs, records, ledger and receipts

The methods of `posix_store.py` that seal jobs, move their records and publish their receipts.
What the source does on an open connection is in the namespace `Connection`; the public methods
in the namespace `Store` wrap it in a transaction.  A method that only reads is a function
`Store → Except Exn α`.
-/

namespace AgentRuntimeOps.RootActions

open AgentRuntimeOps.Lib

variable [UnicodeData]

/-! ## Verification of sealed values -/

/-- Source: `posix_store.py`, `_verify_job`. -/
def verifyJob (job : SealedJob) : Except Exn Unit := do
  let verified ← convert (sealTypedManifest (Document.canonical job.canonicalManifest))
    (·.cls = .manifestValidationError) (Exn.storageConflict "sealed job bytes are invalid")
  require (verified = job)
    (Exn.storageConflict "sealed job metadata does not match canonical bytes")

/-- Source: `posix_store.py`, `_verify_receipt`. -/
def verifyReceipt (artifact : ReceiptArtifact) : Except Exn Unit := do
  let verified ← convert (sealReceipt (Document.canonical artifact.canonicalReceipt))
    (·.cls = .receiptValidationError) (Exn.storageConflict "receipt bytes are invalid")
  require (verified = artifact)
    (Exn.storageConflict "receipt metadata does not match canonical bytes")

/-! ## Reading -/

namespace Store

/-- Source: `posix_store.py`, `read_sealed` and `_read_job`. -/
def readSealed (jobId : String) (s : Store) : Except Exn SealedJob := do
  let row ← orRaise (s.jobs.find? jobId) (Exn.storageNotFound jobId)
  verifyJob row.job
  return row.job

omit [UnicodeData] in
/-- Source: `posix_store.py`, `read_record` and `_read_record`. -/
def readRecord (jobId : String) (s : Store) : Except Exn JobRecord := do
  let record ← orRaise (s.records.find? jobId) (Exn.storageNotFound jobId)
  validateRecord record
  return record

/-- Source: `posix_store.py`, `list_job_ids`. -/
def listJobIds (s : Store) : List String :=
  (s.jobs.rows.map fun row => row.job.jobId).mergeSort (fun a b => decide (a ≤ b))

/-- Source: `posix_store.py`, `catalog_job_ids`: the newest state changes and the number of all
records. -/
def catalogJobIds (limit : Nat) (s : Store) : List String × Nat :=
  let newest := s.records.rows.mergeSort fun a b =>
    decide (b.lastChangedAt < a.lastChangedAt ∨
      (a.lastChangedAt = b.lastChangedAt ∧ b.jobId ≤ a.jobId))
  ((newest.take limit).map (·.jobId), s.records.rows.length)

/-- Source: `posix_store.py`, `submission_metadata`. -/
def submissionMetadata (jobId : String) (s : Store) : Except Exn SubmissionMetadata := do
  let row ← orRaise (s.jobs.find? jobId) (Exn.storageNotFound jobId)
  return row.submission

/-- Source: `posix_store.py`, `running_job_ids`. -/
def runningJobIds (s : Store) : List String :=
  let running := s.records.rows.filter (·.state = .running)
  let ordered := running.mergeSort fun a b =>
    decide (a.lastChangedAt < b.lastChangedAt ∨
      (a.lastChangedAt = b.lastChangedAt ∧ a.jobId ≤ b.jobId))
  ordered.map (·.jobId)

/-- Source: `posix_store.py`, `read_ledger`. -/
def readLedger (jobId : String) (s : Store) : Except Exn (List LedgerEntry) :=
  let rows := s.ledger.filter (·.jobId = jobId)
  if rows = [] then .error (Exn.storageNotFound jobId) else .ok rows

/-- The current receipt row of a job, as the join of `retrieve` and `_insert_receipt` finds it. -/
def currentReceipt? (jobId : String) (s : Store) : Option ReceiptRow :=
  (s.receiptCurrent.find? jobId).bind fun pointer => s.receipts.find? pointer.receiptDigest

/-- Source: `posix_store.py`, `retrieve`. -/
def retrieve (jobId jobDigest : String) (s : Store) : Except Exn ReceiptArtifact := do
  let row ← orRaise ((s.currentReceipt? jobId).filter (·.jobDigest = jobDigest))
    (Exn.storageNotFound jobId)
  let artifact ← sealReceipt (Document.canonical row.canonicalReceipt)
  require (row.kind = artifact.kind ∧ row.jobId = artifact.jobId ∧
      row.jobDigest = artifact.jobDigest ∧ row.operationId = artifact.operationId ∧
      row.receiptDigest = artifact.receiptDigest)
    (Exn.storageConflict "receipt index metadata mismatch")
  verifyReceipt artifact
  return artifact

/-- Source: `posix_store.py`, `read_raw_root_only`. -/
def readRawRootOnly (jobId : String) (s : Store) : Except Exn RawReceiptArtifact := do
  let raw ← orRaise (s.rawReceipts.find? jobId) (Exn.storageNotFound jobId)
  raw.postInit
  return raw

/-- Source: `posix_store.py`, `read_quarantine_notice`. -/
def readQuarantineNotice (jobId : String) (s : Store) : Except Exn ReceiptArtifact := do
  let entry ← orRaise (s.quarantine.find? jobId) (Exn.storageNotFound jobId)
  let row ← orRaise (s.receipts.find? entry.receiptDigest)
    (Exn.storageConflict "quarantine notice points to a missing receipt")
  let artifact ← sealReceipt (Document.canonical row.canonicalReceipt)
  require (row.kind = artifact.kind ∧ row.jobId = artifact.jobId ∧
      row.jobDigest = artifact.jobDigest ∧ row.operationId = artifact.operationId ∧
      row.receiptDigest = artifact.receiptDigest)
    (Exn.storageConflict "quarantine receipt index metadata mismatch")
  verifyReceipt artifact
  return artifact

/-- The records of a lineage that a window contains: the join of `_lineage_summary`. -/
def lineageRecords (lineageId cutoff measuredAt : String) (s : Store) : List JobRecord :=
  (s.jobs.rows.filter fun row => row.job.lineageId = lineageId &&
      decide (cutoff ≤ row.submission.brokerReceivedAt) &&
      decide (row.submission.brokerReceivedAt ≤ measuredAt)).filterMap
    fun row => s.records.find? row.job.jobId

/-- How many records ended with an outcome. -/
def countOutcome (records : List JobRecord) (outcome : TerminalOutcome) : Nat :=
  records.countP (·.terminalOutcome = some outcome)

/-- Source: `posix_store.py`, `lineage_summary` and `_lineage_summary`. -/
def lineageSummary (lineageId measuredAt : String) (policy : LineageFailurePolicy) (s : Store) :
    Except Exn LineageSummary := do
  let cutoff ← secondsBefore measuredAt policy.windowSeconds
  let rows := s.lineageRecords lineageId cutoff measuredAt
  return {
    lineageId := lineageId
    measuredAt := measuredAt
    windowSeconds := policy.windowSeconds
    submissionCount := rows.length
    terminalCounts := {
      canceled := countOutcome rows .canceled
      expired := countOutcome rows .expired
      failed := countOutcome rows .failed
      prestartFailed := countOutcome rows .prestartFailed
      rejected := countOutcome rows .rejected
      succeeded := countOutcome rows .succeeded }
    technicalFailureCount := rows.countP fun record =>
      (record.terminalOutcome = some .failed || record.terminalOutcome = some .prestartFailed) &&
        record.reasonCode.any (· ∈ policy.technicalReasonCodes) }

end Store

/-! ## Writing on a connection -/

namespace Connection

/-- Source: `posix_store.py`, `_insert_job`. -/
def insertJob (job : SealedJob) (submission : SubmissionMetadata) : StoreTx Unit :=
  Tx.writes fun s => do
    let jobs ← insertRow s.jobs (fun row => row.job.jobDigest = job.jobDigest) ⟨job, submission⟩
      "job_id is already sealed"
    return { s with jobs }

/-- Source: `posix_store.py`, `_insert_record_and_initial_ledger`. -/
def insertRecordAndInitialLedger (record : JobRecord) : StoreTx Unit := do
  Tx.writes fun s => do
    let records ← insertRow s.records (fun _ => false)
      { record with terminalOutcome := none, reasonCode := none } "pending record already exists"
    return { s with records }
  Tx.writes fun s => do
    let ledger ← insertLedgerRow s.ledger (fun sequence => {
        sequence := sequence
        action := "sealed_pending"
        priorState := none
        nextState := "pending"
        recordRevision := 0
        eventId := record.lastEventId
        occurredAt := record.lastChangedAt
        jobId := record.jobId
        jobDigest := record.jobDigest
        terminalOutcome := none
        reasonCode := none })
      "initial ledger event already exists"
    return { s with ledger }

/-- The ledger row of a transition. -/
def transitionEntry (prior updated : JobRecord) (event : TransitionEvent) (sequence : Nat) :
    LedgerEntry where
  sequence := sequence
  action := event.kind.value
  priorState := some prior.state.value
  nextState := updated.state.value
  recordRevision := updated.revision
  eventId := event.eventId
  occurredAt := event.occurredAt
  jobId := updated.jobId
  jobDigest := updated.jobDigest
  terminalOutcome := updated.terminalOutcome.map (·.value)
  reasonCode := updated.reasonCode

/-- Source: `posix_store.py`, `_insert_ledger`. -/
def insertLedger (prior updated : JobRecord) (event : TransitionEvent) : StoreTx Unit :=
  Tx.writes fun s => do
    let ledger ← insertLedgerRow s.ledger (transitionEntry prior updated event)
      "ledger event insert failed"
    return { s with ledger }

/-- The `SET` clause of `_compare_and_append`: every column but the identity of the record. -/
def assignRecord (updated row : JobRecord) : JobRecord :=
  { updated with jobId := row.jobId, jobDigest := row.jobDigest }

omit [UnicodeData] in
lemma jobId_assignRecord (updated row : JobRecord) :
    (assignRecord updated row).jobId = row.jobId := rfl

/-- Source: `posix_store.py`, `_compare_and_append`. -/
def compareAndAppend (event : TransitionEvent) : StoreTx JobRecord := do
  let current ← Tx.readsOrRaise (Store.readRecord event.jobId)
  let replay ← Tx.reads fun s =>
    s.ledger.any fun e => e.jobId = event.jobId && e.eventId = event.eventId
  Tx.require (replay = false) (Exn.storageConflict "ledger event_id replay is blocked")
  let updated ← Tx.ofExcept (applyTransition current event)
  Tx.writes fun s => do
    let records ← updateOne s.records
      (fun row => row.jobId = updated.jobId && row.jobDigest = updated.jobDigest &&
        row.revision = current.revision)
      (assignRecord updated) (jobId_assignRecord updated) "state compare-and-swap lost a concurrent race"
    return { s with records }
  insertLedger current updated event
  return updated

/-- Source: `posix_store.py`, `_validate_submission`. -/
def validateSubmission (submission : SubmissionMetadata) (limits : SubmissionLimits) :
    Except Exn Unit := do
  require ((DateTime.strptime submission.brokerReceivedAt).isSome)
    (Exn.storageConflict "submission broker timestamp is invalid")
  require (1 ≤ limits.maxOpenPerUid ∧ 1 ≤ limits.maxOpenPerLineage ∧
      1 ≤ limits.maxJobsPerUidWindow ∧ 1 ≤ limits.windowSeconds)
    (Exn.storageConflict "submission limit is invalid")

/-- The jobs with a record in an open state. -/
def openJobs (s : Store) : List JobRow :=
  s.jobs.rows.filter fun row => (s.records.find? row.job.jobId).any fun record =>
    record.state = .pending || record.state = .running || record.state = .unknown

/-- Source: `posix_store.py`, `_enforce_submission_limits`. -/
def enforceSubmissionLimits (job : SealedJob) (submission : SubmissionMetadata)
    (limits : SubmissionLimits) (s : Store) : Except Exn Unit := do
  require ((openJobs s).countP (·.submission.peerUid = submission.peerUid) < limits.maxOpenPerUid)
    (Exn.storageConflict "submission uid open-job circuit breaker")
  require ((openJobs s).countP (·.job.lineageId = job.lineageId) < limits.maxOpenPerLineage)
    (Exn.storageConflict "submission lineage circuit breaker")
  let cutoff ← secondsBefore submission.brokerReceivedAt limits.windowSeconds
  require (s.jobs.rows.countP (fun row => row.submission.peerUid = submission.peerUid &&
      decide (cutoff ≤ row.submission.brokerReceivedAt)) < limits.maxJobsPerUidWindow)
    (Exn.storageConflict "submission uid rate circuit breaker")

/-- Source: `posix_store.py`, `_validate_receipt_publication`. -/
def validateReceiptPublication (artifact : ReceiptArtifact) (s : Store) : Except Exn Unit := do
  let job ← s.readSealed artifact.jobId
  let record ← s.readRecord artifact.jobId
  require (job.jobDigest = artifact.jobDigest ∧ job.operationId = artifact.operationId ∧
      job.requestId = artifact.requestId ∧ job.replyTarget = artifact.replyTarget)
    (Exn.storageConflict "receipt job identity mismatch")
  require (record.state.isFinal)
    (Exn.storageConflict "receipt cannot publish before a final or unknown state")
  let value := artifact.canonicalReceipt
  require (artifact.kind ≠ "terminal_notice" →
      (s.rawReceipts.find? artifact.jobId).any fun raw =>
        .str raw.reference.rawReceiptDigest = value.field "raw_receipt_digest")
    (Exn.storageConflict "receipt has no matching root-only raw receipt")
  if record.state = .unknown then
    require (artifact.kind = "unknown" ∧ value.field "terminal_outcome" = .null)
      (Exn.storageConflict "unknown state requires an unknown receipt")
  else do
    require (artifact.kind ≠ "unknown")
      (Exn.storageConflict "terminal state cannot publish an unknown receipt")
    require (value.field "terminal_outcome" = .ofOption (record.terminalOutcome.map (·.value)))
      (Exn.storageConflict "receipt terminal outcome mismatch")
    require (artifact.kind = "terminal_notice" →
        value.field "reason_code" = .ofOption record.reasonCode)
      (Exn.storageConflict "receipt reason_code mismatch")

/-- The row of a receipt. -/
def receiptRow (artifact : ReceiptArtifact) : ReceiptRow :=
  ⟨artifact.receiptDigest, artifact.jobId, artifact.jobDigest, artifact.operationId, artifact.kind,
    artifact.canonicalReceipt⟩

/-- The `SET` clause of `_insert_receipt`. -/
def assignPointer (receiptDigest : String) (row : ReceiptPointer) : ReceiptPointer :=
  { row with receiptDigest := receiptDigest }

omit [UnicodeData] in
lemma jobId_assignPointer (receiptDigest : String) (row : ReceiptPointer) :
    (assignPointer receiptDigest row).jobId = row.jobId := rfl

/-- Source: `posix_store.py`, `_insert_receipt`. -/
def insertReceipt (artifact : ReceiptArtifact) : StoreTx Unit := do
  let current ← Tx.reads (Store.currentReceipt? artifact.jobId)
  Tx.require (∀ row ∈ current, row.kind = "unknown" ∧ artifact.kind ≠ "unknown")
    (Exn.storageConflict "public receipt or notice already exists")
  Tx.writes fun s => do
    let receipts ← insertRow s.receipts (fun _ => false) (receiptRow artifact)
      "receipt digest already exists"
    return { s with receipts }
  if current = none then
    Tx.writes fun s => do
      let receiptCurrent ← insertRow s.receiptCurrent (fun _ => false)
        ⟨artifact.jobId, artifact.receiptDigest⟩ "public receipt pointer already exists"
      return { s with receiptCurrent }
  else
    Tx.writes fun s => do
      let receiptCurrent ← updateOne s.receiptCurrent (fun row => row.jobId = artifact.jobId)
        (assignPointer artifact.receiptDigest) (jobId_assignPointer artifact.receiptDigest)
        "public receipt pointer update failed"
      return { s with receiptCurrent }

/-- The pointer table after `_insert_receipt`: a first receipt is inserted, a later one replaces
the unknown notice. -/
def PointerMoves (s : Store) (artifact : ReceiptArtifact)
    (pointers : Table ReceiptPointer String (fun row => row.jobId)) : Prop :=
  (s.currentReceipt? artifact.jobId = none ∧
      s.receiptCurrent.insert? ⟨artifact.jobId, artifact.receiptDigest⟩ = some pointers) ∨
    (s.currentReceipt? artifact.jobId ≠ none ∧
      s.receiptCurrent.countWhere (fun row => row.jobId = artifact.jobId) = 1 ∧
      pointers = s.receiptCurrent.updateWhere (fun row => row.jobId = artifact.jobId)
        (assignPointer artifact.receiptDigest) (jobId_assignPointer artifact.receiptDigest))

/-- The insertion of `put_raw_if_absent` and `_finalize_claimed_execution`. -/
def insertRaw (raw : RawReceiptArtifact) : StoreTx Unit :=
  Tx.writes fun s => do
    let rawReceipts ← insertRow s.rawReceipts
      (fun row => row.reference.rootStorageId = raw.reference.rootStorageId) raw
      "raw receipt already exists"
    return { s with rawReceipts }

end Connection

/-! ## Transactions -/

namespace Store

open Connection

/-- Source: `posix_store.py`, `put_if_absent`. -/
def putIfAbsent (job : SealedJob) : StoreTx Unit := do
  Tx.ofExcept (verifyJob job)
  Tx.transaction (insertJob job ⟨0, 0, 0, job.submittedAt⟩)

/-- Source: `posix_store.py`, `create_pending`. -/
def createPending (record : JobRecord) : StoreTx Unit := do
  Tx.ofExcept (validateRecord record)
  Tx.require (record.state = .pending ∧ record.revision = 0)
    (Exn.storageConflict "create_pending requires an initial pending record")
  Tx.transaction do
    let job ← Tx.readsOrRaise (readSealed record.jobId)
    Tx.require (job.jobDigest = record.jobDigest)
      (Exn.storageConflict "pending record has no matching sealed job")
    insertRecordAndInitialLedger record

/-- Source: `posix_store.py`, `seal_pending`. -/
def sealPending (job : SealedJob) (eventId occurredAt : String)
    (submission : Option SubmissionMetadata) (limits : SubmissionLimits) : StoreTx JobRecord := do
  Tx.ofExcept (verifyJob job)
  let record ← Tx.ofExcept (initialRecord job eventId occurredAt)
  let submission := submission.getD ⟨0, 0, 0, occurredAt⟩
  Tx.ofExcept (validateSubmission submission limits)
  Tx.transaction do
    let taken ← Tx.reads fun s => (s.jobs.find? job.jobId).isSome
    Tx.require (taken = false) (Exn.storageConflict "job_id is already sealed")
    Tx.readsOrRaise (enforceSubmissionLimits job submission limits)
    insertJob job submission
    insertRecordAndInitialLedger record
  return record

/-- Source: `posix_store.py`, `seal_rejected`. -/
def sealRejected (job : SealedJob) (pendingEventId pendingOccurredAt : String)
    (closeEvent : TransitionEvent) (notice : ReceiptArtifact) (submission : SubmissionMetadata)
    (limits : SubmissionLimits) : StoreTx JobRecord := do
  Tx.ofExcept (verifyJob job)
  Tx.ofExcept (verifyReceipt notice)
  let pending ← Tx.ofExcept (initialRecord job pendingEventId pendingOccurredAt)
  Tx.ofExcept (validateSubmission submission limits)
  Tx.require (closeEvent.jobId = job.jobId ∧ closeEvent.jobDigest = job.jobDigest ∧
      closeEvent.expectedRevision = 0 ∧ closeEvent.kind = .closePending ∧
      closeEvent.outcome = some .rejected)
    (Exn.storageConflict "atomic rejected submission transition is invalid")
  let rejected ← Tx.ofExcept (applyTransition pending closeEvent)
  Tx.require (notice.jobId = job.jobId ∧ notice.jobDigest = job.jobDigest ∧
      notice.operationId = job.operationId ∧ notice.kind = "terminal_notice" ∧
      notice.canonicalReceipt.field "terminal_outcome" = .str "rejected" ∧
      notice.canonicalReceipt.field "reason_code" = .ofOption rejected.reasonCode)
    (Exn.storageConflict "atomic rejected submission notice is invalid")
  Tx.transaction do
    let taken ← Tx.reads fun s => (s.jobs.find? job.jobId).isSome
    Tx.require (taken = false) (Exn.storageConflict "job_id is already sealed")
    Tx.readsOrRaise (enforceSubmissionLimits job submission limits)
    insertJob job submission
    insertRecordAndInitialLedger pending
    discard (Connection.compareAndAppend closeEvent)
    Tx.readsOrRaise (validateReceiptPublication notice)
    insertReceipt notice
  return rejected

/-- The circuit event and notice of `seal_with_lineage_admission` fit the job and the policy. -/
def circuitNoticeFits (job : SealedJob) (circuitEvent : TransitionEvent)
    (circuitNotice : ReceiptArtifact) (policy : LineageFailurePolicy) : Prop :=
  circuitEvent.jobId = job.jobId ∧ circuitEvent.jobDigest = job.jobDigest ∧
    circuitEvent.expectedRevision = 0 ∧ circuitEvent.kind = .closePending ∧
    circuitEvent.outcome = some .prestartFailed ∧
    circuitEvent.reasonCode = some policy.circuitReasonCode ∧
    circuitNotice.jobId = job.jobId ∧ circuitNotice.jobDigest = job.jobDigest ∧
    circuitNotice.operationId = job.operationId ∧ circuitNotice.requestId = job.requestId ∧
    circuitNotice.replyTarget = job.replyTarget ∧ circuitNotice.kind = "terminal_notice" ∧
    circuitNotice.canonicalReceipt.field "terminal_outcome" = .str "prestart_failed" ∧
    circuitNotice.canonicalReceipt.field "reason_code" = .str policy.circuitReasonCode

instance (job : SealedJob) (circuitEvent : TransitionEvent) (circuitNotice : ReceiptArtifact)
    (policy : LineageFailurePolicy) :
    Decidable (circuitNoticeFits job circuitEvent circuitNotice policy) := by
  unfold circuitNoticeFits
  infer_instance

/-- Source: `posix_store.py`, `seal_with_lineage_admission`. -/
def sealWithLineageAdmission (job : SealedJob) (pendingEventId pendingOccurredAt : String)
    (circuitEvent : TransitionEvent) (circuitNotice : ReceiptArtifact)
    (submission : SubmissionMetadata) (limits : SubmissionLimits)
    (failurePolicy : LineageFailurePolicy) : StoreTx (JobRecord × SubmissionAdmission) := do
  Tx.ofExcept (verifyJob job)
  Tx.ofExcept (verifyReceipt circuitNotice)
  let pending ← Tx.ofExcept (initialRecord job pendingEventId pendingOccurredAt)
  Tx.ofExcept (validateSubmission submission limits)
  Tx.transaction do
    let taken ← Tx.reads fun s => (s.jobs.find? job.jobId).isSome
    Tx.require (taken = false) (Exn.storageConflict "job_id is already sealed")
    Tx.readsOrRaise (enforceSubmissionLimits job submission limits)
    let summary ← Tx.readsOrRaise
      (lineageSummary job.lineageId submission.brokerReceivedAt failurePolicy)
    if failurePolicy.maximumTechnicalFailures ≤ summary.technicalFailureCount then
      Tx.require (circuitNoticeFits job circuitEvent circuitNotice failurePolicy)
        (Exn.storageConflict "lineage circuit notice is invalid")
      insertJob job submission
      insertRecordAndInitialLedger pending
      let record ← Connection.compareAndAppend circuitEvent
      Tx.readsOrRaise (validateReceiptPublication circuitNotice)
      insertReceipt circuitNotice
      return (record, ⟨some failurePolicy.circuitReasonCode, summary⟩)
    else
      insertJob job submission
      insertRecordAndInitialLedger pending
      return (pending, ⟨none, summary⟩)

/-- Source: `posix_store.py`, `compare_and_append`. -/
def compareAndAppend (event : TransitionEvent) : StoreTx JobRecord :=
  Tx.transaction (Connection.compareAndAppend event)

/-- Source: `posix_store.py`, `put_raw_if_absent`. -/
def putRawIfAbsent (artifact : RawReceiptArtifact) : StoreTx Unit := do
  Tx.ofExcept artifact.postInit
  Tx.transaction do
    let job ← Tx.readsOrRaise (readSealed artifact.reference.jobId)
    Tx.require (job.jobDigest = artifact.reference.jobDigest)
      (Exn.storageConflict "raw receipt job identity mismatch")
    insertRaw artifact

/-- Source: `posix_store.py`, `_finalize_claimed_execution`. -/
def finalizeClaimedExecution (event : TransitionEvent) (raw : RawReceiptArtifact)
    (receipt : ReceiptArtifact) : StoreTx JobRecord := do
  Tx.ofExcept (verifyReceipt receipt)
  Tx.require (event.jobId = raw.reference.jobId ∧ event.jobDigest = raw.reference.jobDigest ∧
      receipt.jobId = raw.reference.jobId ∧ receipt.jobDigest = raw.reference.jobDigest ∧
      receipt.canonicalReceipt.get? "raw_receipt_digest" =
        some (.str raw.reference.rawReceiptDigest))
    (Exn.storageConflict "execution receipt identity mismatch")
  Tx.transaction do
    let job ← Tx.readsOrRaise (readSealed event.jobId)
    Tx.require (job.jobDigest = event.jobDigest)
      (Exn.storageConflict "execution event job identity mismatch")
    insertRaw raw
    let record ← Connection.compareAndAppend event
    Tx.readsOrRaise (validateReceiptPublication receipt)
    insertReceipt receipt
    return record

/-- Source: `posix_store.py`, `complete_claimed_execution`. -/
def completeClaimedExecution (event : TransitionEvent) (raw : RawReceiptArtifact)
    (receipt : ReceiptArtifact) : StoreTx JobRecord := do
  Tx.ofExcept raw.postInit
  Tx.require (event.kind = .completeExecution)
    (Exn.storageConflict "execution completion requires a complete event")
  finalizeClaimedExecution event raw receipt

/-- Source: `posix_store.py`, `mark_claimed_execution_unknown`. -/
def markClaimedExecutionUnknown (event : TransitionEvent) (raw : RawReceiptArtifact)
    (receipt : ReceiptArtifact) : StoreTx JobRecord := do
  Tx.ofExcept raw.postInit
  Tx.require (event.kind = .markUnknown)
    (Exn.storageConflict "unknown completion requires a mark-unknown event")
  finalizeClaimedExecution event raw receipt

/-- Source: `posix_store.py`, `publish_if_absent`. -/
def publishIfAbsent (artifact : ReceiptArtifact) : StoreTx Unit := do
  Tx.ofExcept (verifyReceipt artifact)
  Tx.transaction do
    Tx.readsOrRaise (validateReceiptPublication artifact)
    insertReceipt artifact

/-- Source: `posix_store.py`, `quarantine_if_absent`. -/
def quarantineIfAbsent (record : QuarantineRecord) : StoreTx Unit := do
  Tx.ofExcept record.postInit
  Tx.ofExcept (verifyReceipt record.notice)
  Tx.transaction do
    let raw ← Tx.reads fun s => s.rawReceipts.find? record.rawReference.jobId
    Tx.require (raw.any fun row => row.reference = record.rawReference)
      (Exn.storageConflict "quarantine raw receipt reference mismatch")
    Tx.readsOrRaise (validateReceiptPublication record.notice)
    insertReceipt record.notice
    Tx.writes fun s => do
      let quarantine ← insertRow s.quarantine (fun _ => false)
        ⟨record.notice.jobId, record.notice.receiptDigest, record.rawReference.rootStorageId⟩
        "quarantine entry already exists"
      return { s with quarantine }

end Store

end AgentRuntimeOps.RootActions
