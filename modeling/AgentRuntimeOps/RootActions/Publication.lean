import AgentRuntimeOps.RootActions.Operations

/-!
# Reading and publishing projections

The part of `broker.py` that builds the public view of a job from separate reads of the store and
hands it to the public sink.  The publication lock serializes these programs within one process; it
guards the memory of publications only, and is left out: here they interleave more freely.
-/

namespace AgentRuntimeOps.RootActions

open AgentRuntimeOps.Lib

/-- What a broker is constructed with. -/
structure BrokerConfig where
  policies : ExecutionPolicyRegistry
  submissionPolicy : SubmissionPolicy
  lineageFailurePolicy : LineageFailurePolicy
  /-- A public sink is configured. -/
  publicSink : Bool

/-- Source: `broker.py`, `PUBLIC_CATALOG_JOB_LIMIT`. -/
def publicCatalogJobLimit : Nat := 2048

/-- `_bundle_revision`: the status bytes of a bundle always spell the revision of its state. -/
def PublicProjectionBundle.revision (bundle : PublicProjectionBundle) : Nat :=
  bundle.status.state.revision

variable [UnicodeData]

/-- Source: `broker.py`, `_read_optional_receipt`. -/
def readOptionalReceipt (job : SealedJob) : Prog (Option ReceiptArtifact) :=
  tryCatch
    (do
      let receipt ← Prog.read (.retrieve job.jobId job.jobDigest)
      return some receipt)
    fun exc => if exc.cls = .storageNotFound then pure none else throw exc

/-- Source: `broker.py`, `_status_projection`. -/
def BrokerConfig.statusProjection (cfg : BrokerConfig) (job : SealedJob) (record : JobRecord)
    (receipt : Option ReceiptArtifact) : Prog StatusProjection := do
  let summary ← Prog.read
    (.lineageSummary job.lineageId record.lastChangedAt cfg.lineageFailurePolicy)
  Program.ofExcept (RootActions.statusProjection job record receipt (some summary))

/-- Source: `broker.py`, `public_projection`. -/
def BrokerConfig.publicProjection (cfg : BrokerConfig) (jobId : String) :
    Prog PublicProjectionBundle := do
  let job ← Prog.read (.readSealed jobId)
  let receipt ← readOptionalReceipt job
  let record ← Prog.read (.readRecord jobId)
  let status ← cfg.statusProjection job record receipt
  let entries ← Prog.read (.readLedger jobId)
  let history ← Program.ofExcept (historyProjection job entries)
  Program.ofExcept (buildPublicProjection job.jobId job.jobDigest status history receipt)

/-- Source: `broker.py`, `status`. -/
def BrokerConfig.status (cfg : BrokerConfig) (jobId : String) : Prog StatusProjection := do
  let job ← Prog.read (.readSealed jobId)
  let record ← Prog.read (.readRecord jobId)
  let receipt ← readOptionalReceipt job
  cfg.statusProjection job record receipt

/-- Source: `broker.py`, `_publish_catalog`. -/
def BrokerConfig.publishCatalog (cfg : BrokerConfig) : Prog Unit :=
  if cfg.publicSink then do
    let catalog ← Prog.read (.catalogJobIds publicCatalogJobLimit)
    let bundles ← Program.forEach cfg.publicProjection catalog.1
    Prog.publishCatalog bundles catalog.2
  else pure ()

/-- `self._public_sink.publish(bundle)` where there is a sink. -/
def BrokerConfig.publish (cfg : BrokerConfig) (bundle : PublicProjectionBundle) : Prog Unit :=
  if cfg.publicSink then Prog.publish bundle else pure ()

/-- The publication of `_repair_public_best_effort`: what it raises is noted, not passed on. -/
def BrokerConfig.publishBestEffort (cfg : BrokerConfig) (bundle : PublicProjectionBundle) :
    Prog Unit := do
  let done ← tryCatch
    (do
      cfg.publish bundle
      cfg.publishCatalog
      return true)
    fun _ => return false
  if done then Prog.remember bundle else pure ()

/-- The second half of `_repair_public_best_effort`: a projection is published unless the process
remembers to have published it, or a newer one. -/
def BrokerConfig.publishNewer (cfg : BrokerConfig) (jobId : String)
    (bundle : PublicProjectionBundle) : Prog PublicProjectionBundle := do
  let known ← Prog.published jobId
  if known.any (bundle.revision < ·.1) then cfg.publicProjection jobId
  else if known = some (bundle.revision, bundle.projectionDigest) then return bundle
  else do
    cfg.publishBestEffort bundle
    return bundle

/-- Source: `broker.py`, `_repair_public_best_effort`. -/
def BrokerConfig.repairPublic (cfg : BrokerConfig) (jobId : String)
    (bundle : Option PublicProjectionBundle) : Prog PublicProjectionBundle := do
  let current ← Prog.read (.readRecord jobId)
  match bundle.filter (·.revision = current.revision) with
  | some bundle => cfg.publishNewer jobId bundle
  | none => do
    let bundle ← cfg.publicProjection jobId
    cfg.publishNewer jobId bundle

/-- Source: `broker.py`, `repair_public_best_effort`. -/
def BrokerConfig.repairPublicBestEffort (cfg : BrokerConfig) (jobId : String) :
    Prog PublicProjectionBundle := do
  let bundle ← cfg.publicProjection jobId
  cfg.repairPublic jobId (some bundle)

/-- Source: `broker.py`, `requester_projection`. -/
def BrokerConfig.requesterProjection (cfg : BrokerConfig) (peer : BrokerPeerIdentity)
    (jobId jobDigest requestId replyTarget : String) : Prog PublicProjectionBundle := do
  let metadata ← Prog.read (.submissionMetadata jobId)
  Prog.require (metadata.peerUid = peer.uid ∧ metadata.peerGid = peer.gid)
    (Exn.storageNotFound jobId)
  let job ← Prog.read (.readSealed jobId)
  Prog.require (job.jobDigest = jobDigest ∧ job.requestId = requestId ∧
    job.replyTarget = replyTarget) (Exn.storageNotFound jobId)
  let bundle ← cfg.publicProjection jobId
  cfg.repairPublic jobId (some bundle)

/-- Source: `broker.py`, `reconcile_public`. -/
def BrokerConfig.reconcilePublic (cfg : BrokerConfig) : Prog (List PublicProjectionBundle) := do
  let jobIds ← Prog.read .listJobIds
  let bundles ← Program.forEach cfg.publicProjection jobIds
  discard (Program.forEach cfg.publish bundles)
  cfg.publishCatalog
  discard (Program.forEach Prog.remember bundles)
  return bundles

end AgentRuntimeOps.RootActions
