import AgentRuntimeOps.RootActions.Publication

/-!
# The execution worker

`worker.py`: a claimed job is put into the queue, executed once and finalized, or marked as unknown
together with a receipt that says so.
-/

namespace AgentRuntimeOps.RootActions

open AgentRuntimeOps.Lib

/-! ## What the worker writes -/

/-- `text.encode("ascii")`. -/
def encodeAscii (text : String) : Except Exn (List UInt8) := do
  require (text.toList.all fun c => decide (c.toNat < 0x80))
    ⟨.other "UnicodeEncodeError", "'ascii' codec can't encode character"⟩
  return utf8 text.toList

/-- Source: `worker.py`, `_raw_storage_id`. -/
def rawStorageId (jobId eventId : String) : Except Exn String := do
  let job ← encodeAscii jobId
  let event ← encodeAscii eventId
  let digest := hexdigest (tagged "agent-runtime-root-action-raw-storage/v1" (job ++ 0 :: event))
  return "raw-" ++ String.ofList (digest.take 48)

/-- The raw receipt of `_mark_unknown`. -/
def failureNote (failureType reasonCode : String) : List UInt8 :=
  utf8 (Json.dumpsAscii (.obj [
    ("failure_type", .str failureType),
    ("phase", .str "claimed_execution"),
    ("reason_code", .str reasonCode)]) ++ ['\n'])

/-- The notice of `_mark_unknown`. -/
def unknownNotice (job : SealedJob) (rawReceiptDigest occurredAt reasonCode : String) : Json := .obj [
  ("job_digest", .str job.jobDigest),
  ("job_id", .str job.jobId),
  ("kind", .str "unknown"),
  ("last_known_at", .str occurredAt),
  ("operation_id", .str job.operationId),
  ("raw_receipt_digest", .str rawReceiptDigest),
  ("reason_code", .str reasonCode),
  ("reply_target", .str job.replyTarget),
  ("request_id", .str job.requestId),
  ("schema", .str receiptSchema),
  ("terminal_outcome", .null)]

/-- The receipt of an execution. -/
def executionReceipt (job : SealedJob) (result : HandlerResult)
    (rawReceiptDigest startedAt endedAt : String) : Json := .obj [
  ("ended_at", .str endedAt),
  ("exit_code", .int result.exitCode),
  ("job_digest", .str job.jobDigest),
  ("job_id", .str job.jobId),
  ("kind", .str "public"),
  ("operation_id", .str job.operationId),
  ("raw_receipt_digest", .str rawReceiptDigest),
  ("removed_lines", .int 0),
  ("reply_target", .str job.replyTarget),
  ("request_id", .str job.requestId),
  ("result", result.publicResult),
  ("schema", .str receiptSchema),
  ("started_at", .str startedAt),
  ("terminal_outcome", .str result.terminalOutcome)]

/-- A receipt as the bytes of `json.dumps(value, ensure_ascii=False)`. -/
def receiptDocument (value : Json) : Document := ⟨(utf8 value.dumpsSpaced).length, value⟩

/-- A receipt as the bytes of `json.dumps(value)`. -/
def asciiReceiptDocument (value : Json) : Document := ⟨(utf8 value.dumpsAsciiSpaced).length, value⟩

variable [UnicodeData]

/-- The raw receipt and the notice that `_mark_unknown` seals. -/
def sealUnknown (job : SealedJob) (eventId occurredAt reasonCode failureType : String) :
    Except Exn (RawReceiptArtifact × ReceiptArtifact) := do
  let rootStorageId ← rawStorageId job.jobId eventId
  let raw ← sealRawReceipt job.jobId job.jobDigest rootStorageId
    (failureNote failureType reasonCode)
  let notice ← sealReceipt (asciiReceiptDocument
    (unknownNotice job raw.reference.rawReceiptDigest occurredAt reasonCode))
  return (raw, notice)

/-- What `_mark_unknown` seals. -/
lemma sealUnknown_ok {job : SealedJob} {eventId occurredAt reasonCode failureType : String}
    {sealed : RawReceiptArtifact × ReceiptArtifact} :
    sealUnknown job eventId occurredAt reasonCode failureType = .ok sealed ↔
      ∃ rootStorageId, rawStorageId job.jobId eventId = .ok rootStorageId ∧
        sealRawReceipt job.jobId job.jobDigest rootStorageId (failureNote failureType reasonCode) =
          .ok sealed.1 ∧
        sealReceipt (asciiReceiptDocument (unknownNotice job sealed.1.reference.rawReceiptDigest
          occurredAt reasonCode)) = .ok sealed.2 := by
  unfold sealUnknown
  simp only [except_bind_ok, except_pure_ok]
  constructor
  · rintro ⟨rootStorageId, hid, raw, hraw, notice, hnotice, rfl⟩
    exact ⟨rootStorageId, hid, hraw, hnotice⟩
  · rintro ⟨rootStorageId, hid, hraw, hnotice⟩
    exact ⟨rootStorageId, hid, sealed.1, hraw, sealed.2, hnotice, rfl⟩

/-- The receipt that `_mark_unknown` seals is its notice. -/
lemma canonicalReceipt_of_sealUnknown {job : SealedJob}
    {eventId occurredAt reasonCode failureType : String}
    {sealed : RawReceiptArtifact × ReceiptArtifact}
    (h : sealUnknown job eventId occurredAt reasonCode failureType = .ok sealed) :
    sealed.2.canonicalReceipt =
      unknownNotice job sealed.1.reference.rawReceiptDigest occurredAt reasonCode := by
  obtain ⟨-, -, -, hnotice⟩ := sealUnknown_ok.mp h
  exact canonicalReceipt_of_seal hnotice

/-- The event of `_mark_unknown`. -/
def markUnknownEvent (job : SealedJob) (record : JobRecord) (eventId occurredAt reasonCode : String) :
    TransitionEvent where
  eventId := eventId
  jobId := job.jobId
  jobDigest := job.jobDigest
  expectedRevision := record.revision
  kind := .markUnknown
  occurredAt := occurredAt
  outcome := none
  reasonCode := some reasonCode

/-- Source: `worker.py`, `_mark_unknown`. -/
def markUnknown (jobId jobDigest reasonCode failureType : String) : Prog Unit := do
  let job ← Prog.read (.readSealed jobId)
  let record ← Prog.read (.readRecord jobId)
  Prog.require (job.jobDigest = jobDigest ∧ record.jobDigest = jobDigest ∧ record.state = .running)
    (Exn.rootActionWorkerError "only a running exact claim can become unknown")
  let event ← Prog.nextEvent
  let sealed ← Program.ofExcept (sealUnknown job event.1 event.2 reasonCode failureType)
  discard (Prog.write (.markClaimedExecutionUnknown
    (markUnknownEvent job record event.1 event.2 reasonCode) sealed.1 sealed.2))

/-- The raw receipt and the receipt that `_execute` seals. -/
def sealExecution (job : SealedJob) (record : JobRecord) (result : HandlerResult)
    (eventId endedAt : String) : Except Exn (RawReceiptArtifact × ReceiptArtifact) := do
  let rootStorageId ← rawStorageId job.jobId eventId
  let raw ← sealRawReceipt job.jobId job.jobDigest rootStorageId result.rawBytes
  result.render
  let receipt ← sealReceipt (receiptDocument (executionReceipt job result
    raw.reference.rawReceiptDigest record.lastChangedAt endedAt))
  return (raw, receipt)

/-- The event of `_execute`. -/
def completeEvent (job : SealedJob) (record : JobRecord) (result : HandlerResult)
    (eventId endedAt : String) : TransitionEvent where
  eventId := eventId
  jobId := job.jobId
  jobDigest := job.jobDigest
  expectedRevision := record.revision
  kind := .completeExecution
  occurredAt := endedAt
  outcome := TerminalOutcome.ofValue? result.terminalOutcome
  reasonCode := some result.reasonCode

/-! ## Programs -/

/-- The registry has a handler for every enabled operation and no other.
Source: `execution.py`, `OperationHandlerRegistry.handler`. -/
def BrokerConfig.handler (cfg : BrokerConfig) (operationId : String) : Except Exn Unit :=
  match cfg.policies.policy operationId with
  | .ok policy =>
    require (policy.availability = .enabled) ⟨.keyError, operationId⟩
  | .error exc => .error exc

/-- Source: `worker.py`, `_repair`. -/
def BrokerConfig.repair (cfg : BrokerConfig) (jobId : String) : Prog Unit :=
  tryCatch (discard (cfg.repairPublicBestEffort jobId)) fun _ => pure ()

/-- One iteration of `recover_orphaned_claims`. -/
def BrokerConfig.recoverOrphan (cfg : BrokerConfig) (jobId : String) : Prog String := do
  let record ← Prog.read (.readRecord jobId)
  markUnknown jobId record.jobDigest "broker_restarted_with_running_job" "BrokerRestart"
  cfg.repair jobId
  return jobId

/-- Source: `worker.py`, `recover_orphaned_claims`. -/
def BrokerConfig.recoverOrphanedClaims (cfg : BrokerConfig) : Prog (List String) := do
  let jobIds ← Prog.read .runningJobIds
  Program.forEach cfg.recoverOrphan jobIds

/-- A claimed job that cannot be queued becomes unknown, and the dispatch fails. -/
def BrokerConfig.refuse (cfg : BrokerConfig) (jobId jobDigest reasonCode failureType : String)
    (message : String) : Prog Unit := do
  markUnknown jobId jobDigest reasonCode failureType
  cfg.repair jobId
  throw (Exn.rootActionWorkerError message)

/-- Source: `worker.py`, `enqueue`. -/
def BrokerConfig.enqueue (cfg : BrokerConfig) (jobId jobDigest : String) : Prog Unit := do
  let alive ← Prog.workerAlive
  if alive then do
    let record ← Prog.read (.readRecord jobId)
    Prog.require (record.jobDigest = jobDigest ∧ record.state = .running ∧ record.executionCount = 1)
      (Exn.rootActionWorkerError "only the exact claimed job can be enqueued")
    let queued ← Prog.putNowait jobId jobDigest
    if queued then pure ()
    else
      cfg.refuse jobId jobDigest "worker_queue_unavailable" "WorkerQueueFull"
        "root-action worker queue is full"
  else
    cfg.refuse jobId jobDigest "worker_unavailable_after_claim" "WorkerUnavailable"
      "root-action worker is unavailable"

/-- The guarded body of `_execute`. -/
def BrokerConfig.executeClaim (cfg : BrokerConfig) (jobId jobDigest : String) : Prog Unit := do
  let job ← Prog.read (.readSealed jobId)
  let record ← Prog.read (.readRecord jobId)
  Prog.require (job.jobDigest = jobDigest ∧ record.jobDigest = jobDigest ∧
    record.state = .running ∧ record.executionCount = 1)
    (Exn.rootActionWorkerError "queued job is not the exact running claim")
  Program.ofExcept (cfg.handler job.operationId)
  let result ← Program.perform (Op.runHandler job)
  let event ← Prog.nextEvent
  let sealed ← Program.ofExcept (sealExecution job record result event.1 event.2)
  discard (Prog.write (.completeClaimedExecution
    (completeEvent job record result event.1 event.2) sealed.1 sealed.2))

/-- The handler of `_execute`: what it raises itself is dropped. -/
def outcomeUncertain (jobId jobDigest failureType : String) : Prog Unit :=
  tryCatch
    (do
      let current ← Prog.read (.readRecord jobId)
      if current.state = .running then
        markUnknown jobId jobDigest "worker_outcome_uncertain" failureType
      else pure ())
    fun _ => pure ()

/-- Source: `worker.py`, `_execute`. -/
def BrokerConfig.execute (cfg : BrokerConfig) (jobId jobDigest : String) : Prog Unit := do
  tryCatch (cfg.executeClaim jobId jobDigest) fun exc =>
    outcomeUncertain jobId jobDigest exc.cls.name
  cfg.repair jobId

end AgentRuntimeOps.RootActions
