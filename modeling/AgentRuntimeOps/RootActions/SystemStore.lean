import AgentRuntimeOps.RootActions.LedgerReplay
import AgentRuntimeOps.RootActions.Threads

/-!
# The stores that the service writes

The programs of the service use a few methods of the store, and use them consistently
(`StoreWrite.isSystem`).  In a store that they lead to, a job that is pending or running has no
receipt, and a job in a final state has exactly the receipt that its record calls for, with its raw
receipt when it was executed (`Settled`).
-/

set_option linter.unusedSectionVars false

namespace AgentRuntimeOps.RootActions

open AgentRuntimeOps.Lib Connection

variable [UnicodeData]

/-! ## What belongs to a record -/

/-- The receipt of a record in a final state. -/
structure ReceiptFits (job : SealedJob) (record : JobRecord) (artifact : ReceiptArtifact) : Prop where
  verified : sealReceipt (Document.canonical artifact.canonicalReceipt) = .ok artifact
  jobId : artifact.jobId = job.jobId
  jobDigest : artifact.jobDigest = job.jobDigest
  operationId : artifact.operationId = job.operationId
  requestId : artifact.requestId = job.requestId
  replyTarget : artifact.replyTarget = job.replyTarget
  unknown : record.state = .unknown → artifact.kind = "unknown"
  terminal : record.state = .terminal → artifact.kind ≠ "unknown"
  outcome : artifact.canonicalReceipt.field "terminal_outcome" =
    .ofOption (record.terminalOutcome.map (·.value))
  reason : artifact.kind = "unknown" ∨ artifact.kind = "terminal_notice" →
    artifact.canonicalReceipt.field "reason_code" = .ofOption record.reasonCode

/-- The store holds the receipt of a record, and its raw receipt when the job was executed. -/
def Published (s : Store) (record : JobRecord) : Prop :=
  ∃ row artifact, s.jobs.find? record.jobId = some row ∧ ReceiptFits row.job record artifact ∧
    s.currentReceipt? record.jobId = some (receiptRow artifact) ∧
    (record.executionCount = 1 → ∃ raw, s.rawReceipts.find? record.jobId = some raw ∧
      artifact.canonicalReceipt.field "raw_receipt_digest" = .str raw.reference.rawReceiptDigest)

/-- The receipts of a job are what its record calls for. -/
structure Settled (s : Store) (jobId : String) : Prop where
  /-- Without a record, or before a final state, there is no receipt. -/
  unpublished : (∀ r, s.records.find? jobId = some r → r.state.isFinal = false) →
    s.rawReceipts.find? jobId = none ∧ s.receiptCurrent.find? jobId = none
  published : ∀ r, s.records.find? jobId = some r → r.state.isFinal = true → Published s r

/-- The rows of a job are the same in two stores, of which the second is later. -/
structure AgreeAt (jobId : String) (s s' : Store) : Prop where
  records : s'.records.find? jobId = s.records.find? jobId
  raws : s'.rawReceipts.find? jobId = s.rawReceipts.find? jobId
  pointers : s'.receiptCurrent.find? jobId = s.receiptCurrent.find? jobId
  jobs : ∀ row, s.jobs.find? jobId = some row → s'.jobs.find? jobId = some row
  receipts : ∀ k row, s.receipts.find? k = some row → s'.receipts.find? k = some row

namespace AgreeAt

variable {jobId : String} {s s₁ s' : Store}

lemma refl (s : Store) : AgreeAt jobId s s := ⟨rfl, rfl, rfl, fun _ h => h, fun _ _ h => h⟩

lemma trans (h : AgreeAt jobId s s₁) (h' : AgreeAt jobId s₁ s') : AgreeAt jobId s s' :=
  ⟨h'.records.trans h.records, h'.raws.trans h.raws, h'.pointers.trans h.pointers,
    fun row hrow => h'.jobs row (h.jobs row hrow),
    fun k row hrow => h'.receipts k row (h.receipts k row hrow)⟩

/-- A current receipt stays current. -/
lemma currentReceipt? (h : AgreeAt jobId s s') {row : ReceiptRow}
    (hrow : s.currentReceipt? jobId = some row) : s'.currentReceipt? jobId = some row := by
  unfold Store.currentReceipt? at hrow ⊢
  rw [Option.bind_eq_some_iff] at hrow ⊢
  obtain ⟨pointer, hpointer, hrow⟩ := hrow
  exact ⟨pointer, h.pointers.trans hpointer, h.receipts _ row hrow⟩

/-- What is settled stays settled where nothing changes. -/
lemma settled (h : AgreeAt jobId s s') (hs : Settled s jobId) : Settled s' jobId := by
  constructor
  · intro hopen
    rw [h.raws, h.pointers]
    exact hs.unpublished fun r hr => hopen r (h.records.trans hr)
  · intro r hr hfinal
    rw [h.records] at hr
    have hkey : r.jobId = jobId := Table.key_of_find? hr
    obtain ⟨row, artifact, hrow, hfits, hcurrent, hraw⟩ := hs.published r hr hfinal
    rw [hkey] at hrow hcurrent hraw
    refine ⟨row, artifact, ?_, hfits, ?_, ?_⟩
    · rw [hkey]
      exact h.jobs row hrow
    · rw [hkey]
      exact h.currentReceipt? hcurrent
    · rw [hkey, h.raws]
      exact hraw

/-! ## The statements -/

variable {u : Unit}

lemma insertJob {job : SealedJob} {submission : SubmissionMetadata}
    (h : Connection.insertJob job submission s = (.ok u, s')) (jobId : String) :
    AgreeAt jobId s s' := by
  obtain ⟨jobs, -, hins, rfl⟩ := insertJob_ok.mp h
  exact { refl s with jobs := fun row hrow => Store.Extends.find?_of_insert? hins hrow }

lemma insertRecord {record : JobRecord}
    (hpending : record.terminalOutcome = none ∧ record.reasonCode = none)
    (h : insertRecordAndInitialLedger record s = (.ok u, s')) (hne : jobId ≠ record.jobId) :
    AgreeAt jobId s s' := by
  obtain ⟨records, hins, -, -, rfl⟩ := (insertRecordAndInitialLedger_ok hpending).mp h
  exact { refl s with records := (Table.find?_insert? hins jobId).trans (if_neg (Ne.symm hne)) }

lemma compareAndAppend {event : TransitionEvent} {updated : JobRecord}
    (h : Connection.compareAndAppend event s = (.ok updated, s')) (hne : jobId ≠ event.jobId) :
    AgreeAt jobId s s' := by
  have hfind := find?_of_compareAndAppend h jobId
  obtain ⟨current, -, -, -, -, rfl⟩ := compareAndAppend_ok.mp h
  exact { refl s with records := hfind.trans (if_neg hne) }

lemma insertRaw {raw : RawReceiptArtifact} (h : Connection.insertRaw raw s = (.ok u, s'))
    (hne : jobId ≠ raw.reference.jobId) : AgreeAt jobId s s' := by
  obtain ⟨rawReceipts, -, hins, rfl⟩ := insertRaw_ok.mp h
  exact { refl s with raws := (Table.find?_insert? hins jobId).trans (if_neg (Ne.symm hne)) }

lemma insertReceipt {artifact : ReceiptArtifact}
    (h : Connection.insertReceipt artifact s = (.ok u, s')) (hne : jobId ≠ artifact.jobId) :
    AgreeAt jobId s s' := by
  obtain ⟨receipts, pointers, -, hins, hmoves, rfl⟩ := insertReceipt_ok.mp h
  refine { refl s with pointers := ?_, receipts := fun k row hrow => ?_ }
  · change pointers.find? jobId = s.receiptCurrent.find? jobId
    rcases hmoves with ⟨-, hptr⟩ | ⟨-, -, rfl⟩
    · exact (Table.find?_insert? hptr jobId).trans (if_neg (Ne.symm hne))
    · rw [Table.find?_updateWhere]
      cases hfind : s.receiptCurrent.find? jobId with
      | none => rfl
      | some pointer =>
          have hkey : pointer.jobId = jobId := Table.key_of_find? hfind
          rw [Option.map_some, if_neg]
          rw [decide_eq_true_eq, hkey]
          exact hne
  · exact Store.Extends.find?_of_insert? hins hrow

/-- A seal touches the rows of its job only. -/
lemma admits {job : SealedJob} {submission : SubmissionMetadata} {pending : JobRecord}
    {eventId occurredAt : String} (hinit : initialRecord job eventId occurredAt = .ok pending)
    (h : Store.Admits s s' job submission pending) (hne : jobId ≠ job.jobId) :
    AgreeAt jobId s s' := by
  obtain ⟨rfl, -⟩ := initialRecord_ok.mp hinit
  obtain ⟨-, s₀, hjob, hrecord⟩ := h
  exact (insertJob hjob jobId).trans (insertRecord ⟨rfl, rfl⟩ hrecord hne)

/-- The same tables hold the same rows. -/
lemma of_tables (hjobs : s'.jobs = s.jobs) (hrecords : s'.records = s.records)
    (hraws : s'.rawReceipts = s.rawReceipts) (hreceipts : s'.receipts = s.receipts)
    (hpointers : s'.receiptCurrent = s.receiptCurrent) (jobId : String) : AgreeAt jobId s s' := by
  refine ⟨by rw [hrecords], by rw [hraws], by rw [hpointers], fun row hrow => ?_,
    fun k row hrow => ?_⟩
  · rwa [hjobs]
  · rwa [hreceipts]

end AgreeAt

/-! ## Publication -/

section publication

variable {s s' : Store} {artifact : ReceiptArtifact}

/-- What `_validate_receipt_publication` checks. -/
lemma validateReceiptPublication_ok (h : validateReceiptPublication artifact s = .ok ()) :
    ∃ row record, s.jobs.find? artifact.jobId = some row ∧
      s.records.find? artifact.jobId = some record ∧ record.state.isFinal = true ∧
      (row.job.jobDigest = artifact.jobDigest ∧ row.job.operationId = artifact.operationId ∧
        row.job.requestId = artifact.requestId ∧ row.job.replyTarget = artifact.replyTarget) ∧
      (artifact.kind ≠ "terminal_notice" → ∃ raw, s.rawReceipts.find? artifact.jobId = some raw ∧
        artifact.canonicalReceipt.field "raw_receipt_digest" =
          .str raw.reference.rawReceiptDigest) ∧
      (record.state = .unknown → artifact.kind = "unknown") ∧
      (record.state = .terminal → artifact.kind ≠ "unknown") ∧
      (record.state = .unknown → artifact.canonicalReceipt.field "terminal_outcome" = .null) ∧
      (record.state = .terminal → artifact.canonicalReceipt.field "terminal_outcome" =
        .ofOption (record.terminalOutcome.map (·.value))) ∧
      (record.state = .terminal → artifact.kind = "terminal_notice" →
        artifact.canonicalReceipt.field "reason_code" = .ofOption record.reasonCode) := by
  unfold validateReceiptPublication at h
  simp only [except_bind_ok, require_ok, exists_const] at h
  obtain ⟨job, hjob, record, hrecord, hidentity, hfinal, hraw, hrest⟩ := h
  obtain ⟨row, hrow, -, rfl⟩ := readSealed_ok.mp hjob
  refine ⟨row, record, hrow, (readRecord_ok.mp hrecord).1, hfinal, hidentity, ?_, ?_⟩
  · intro hkind
    have hany := hraw hkind
    rw [Option.any_eq_true] at hany
    obtain ⟨raw, hfind, hdigest⟩ := hany
    exact ⟨raw, hfind, (of_decide_eq_true hdigest).symm⟩
  · by_cases hstate : record.state = .unknown
    · rw [if_pos hstate, require_ok] at hrest
      have hnot : record.state ≠ .terminal := by
        intro hterminal
        rw [hstate] at hterminal
        cases hterminal
      exact ⟨fun _ => hrest.1, fun hterminal => absurd hterminal hnot, fun _ => hrest.2,
        fun hterminal => absurd hterminal hnot, fun hterminal => absurd hterminal hnot⟩
    · rw [if_neg hstate] at hrest
      simp only [except_bind_ok, require_ok, exists_const] at hrest
      obtain ⟨hkind, houtcome, hreason⟩ := hrest
      exact ⟨fun hunknown => absurd hunknown hstate, fun _ => hkind,
        fun hunknown => absurd hunknown hstate, fun _ => houtcome, fun _ => hreason⟩

/-- The pointer after a first receipt. -/
lemma currentReceipt?_of_insertReceipt (hnone : s.receiptCurrent.find? artifact.jobId = none)
    (h : Connection.insertReceipt artifact s = (.ok (), s')) :
    s'.currentReceipt? artifact.jobId = some (receiptRow artifact) ∧ s'.records = s.records ∧
      s'.jobs = s.jobs ∧ s'.rawReceipts = s.rawReceipts := by
  obtain ⟨receipts, pointers, -, hins, hmoves, rfl⟩ := insertReceipt_ok.mp h
  refine ⟨?_, rfl, rfl, rfl⟩
  have hcurrent : s.currentReceipt? artifact.jobId = none := by
    unfold Store.currentReceipt?
    rw [hnone]
    rfl
  have hptr : pointers.find? artifact.jobId = some ⟨artifact.jobId, artifact.receiptDigest⟩ := by
    rcases hmoves with ⟨-, hptr⟩ | ⟨hsome, -⟩
    · exact (Table.find?_insert? hptr _).trans (if_pos rfl)
    · exact absurd hcurrent hsome
  have hrow : receipts.find? artifact.receiptDigest = some (receiptRow artifact) :=
    (Table.find?_insert? hins _).trans (if_pos rfl)
  change (pointers.find? artifact.jobId).bind (fun pointer => receipts.find? pointer.receiptDigest) =
    some (receiptRow artifact)
  rw [hptr]
  exact hrow

/-- A notice of a job that never ran does not name the outcome of an execution. -/
lemma kind_of_executed (hverify : verifyReceipt artifact = .ok ()) {outcome : TerminalOutcome}
    (hexecuted : outcome.isExecuted = true)
    (houtcome : artifact.canonicalReceipt.field "terminal_outcome" = .str outcome.value) :
    artifact.kind ≠ "terminal_notice" := by
  intro hkind
  obtain ⟨-, -, hvalid, hartifact⟩ := sealReceipt_ok.mp (verifyReceipt_ok.mp hverify)
  rw [hartifact] at hkind
  have htext : artifact.canonicalReceipt.textAt? "kind" = some "terminal_notice" := by
    have hfield : (artifact.canonicalReceipt.textAt? "kind").getD "" = "terminal_notice" := hkind
    cases htext : artifact.canonicalReceipt.textAt? "kind" with
    | none =>
        rw [htext] at hfield
        exact absurd hfield (by decide)
    | some kind => rw [htext] at hfield; exact congrArg some hfield
  change validateReceipt artifact.canonicalReceipt = .ok () at hvalid
  unfold validateReceipt at hvalid
  rw [htext] at hvalid
  unfold validateTerminalNotice outcomeIn at hvalid
  simp only [except_bind_ok, require_ok, exists_const, houtcome] at hvalid
  obtain ⟨-, -, -, -, hlisted, -⟩ := hvalid
  cases outcome with
  | succeeded => revert hlisted; decide
  | failed => revert hlisted; decide
  | rejected | expired | canceled | prestartFailed => cases hexecuted

/-- **A published receipt fits the record of its job**, provided that the reason of an unknown
receipt is the one of the record: publication does not compare these. -/
lemma receiptFits_of_publication (hverify : verifyReceipt artifact = .ok ())
    (hvalid : validateReceiptPublication artifact s = .ok ())
    (hreason : ∀ r, s.records.find? artifact.jobId = some r → r.state = .unknown →
      artifact.canonicalReceipt.field "reason_code" = .ofOption r.reasonCode)
    (hrecords : ∀ r, s.records.find? artifact.jobId = some r → r.Valid) :
    ∃ row record, s.jobs.find? artifact.jobId = some row ∧
      s.records.find? artifact.jobId = some record ∧
      (record.state = .unknown ∨ record.state = .terminal) ∧ ReceiptFits row.job record artifact ∧
      (artifact.kind ≠ "terminal_notice" → ∃ raw, s.rawReceipts.find? artifact.jobId = some raw ∧
        artifact.canonicalReceipt.field "raw_receipt_digest" =
          .str raw.reference.rawReceiptDigest) := by
  obtain ⟨row, record, hrow, hrecord, hfinal, hidentity, hraw, hkind, hkind', hnull, houtcome,
    hnotice⟩ := validateReceiptPublication_ok hvalid
  have hrowKey : row.job.jobId = artifact.jobId := by
    have hrowKey' := Table.key_of_find? hrow
    exact hrowKey'
  have hstates : record.state = .unknown ∨ record.state = .terminal := by
    cases hstate : record.state with
    | pending => rw [hstate] at hfinal; cases hfinal
    | running => rw [hstate] at hfinal; cases hfinal
    | unknown => exact .inl rfl
    | terminal => exact .inr rfl
  refine ⟨row, record, hrow, hrecord, hstates, ?_, hraw⟩
  refine ⟨verifyReceipt_ok.mp hverify, hrowKey.symm, hidentity.1.symm, hidentity.2.1.symm,
    hidentity.2.2.1.symm, hidentity.2.2.2.symm, hkind, hkind', ?_, ?_⟩
  · rcases hstates with hstate | hstate
    · rw [hnull hstate, ((hrecords record hrecord).unknown hstate).2.1]
      rfl
    · exact houtcome hstate
  · intro hkinds
    rcases hstates with hstate | hstate
    · exact hreason record hrecord hstate
    · rcases hkinds with hunknown | hterminal
      · exact absurd hunknown (hkind' hstate)
      · exact hnotice hstate hterminal

/-- **A first receipt settles its job.** -/
lemma settled_of_publication (hverify : verifyReceipt artifact = .ok ())
    (hvalid : validateReceiptPublication artifact s = .ok ())
    (hnone : s.receiptCurrent.find? artifact.jobId = none)
    (h : Connection.insertReceipt artifact s = (.ok (), s'))
    (hreason : ∀ r, s.records.find? artifact.jobId = some r → r.state = .unknown →
      artifact.canonicalReceipt.field "reason_code" = .ofOption r.reasonCode)
    (hrecords : ∀ r, s.records.find? artifact.jobId = some r → r.Valid) :
    Settled s' artifact.jobId := by
  obtain ⟨row, record, hrow, hrecord, hstates, hfits, hraw⟩ :=
    receiptFits_of_publication hverify hvalid hreason hrecords
  obtain ⟨hcurrent, hrecs, hjobs, hraws⟩ := currentReceipt?_of_insertReceipt hnone h
  have hkey : record.jobId = artifact.jobId := Table.key_of_find? hrecord
  have hvalidRecord := hrecords record hrecord
  constructor
  · intro hopen
    have hnot := hopen record (by rw [hrecs]; exact hrecord)
    rcases hstates with hstate | hstate
    · rw [hstate] at hnot; cases hnot
    · rw [hstate] at hnot; cases hnot
  intro r hr _
  rw [hrecs, hrecord] at hr
  cases hr
  refine ⟨row, artifact, ?_, hfits, ?_, ?_⟩
  · rw [hkey, hjobs]
    exact hrow
  · rw [hkey]
    exact hcurrent
  · intro hone
    have hnotNotice : artifact.kind ≠ "terminal_notice" := by
      rcases hstates with hstate | hstate
      · rw [hfits.unknown hstate]
        decide
      · obtain ⟨outcome, hsome, hexecuted⟩ := hvalidRecord.terminal hstate
        refine @kind_of_executed _ artifact hverify outcome ?_ ?_
        · by_contra hnot
          rw [if_neg hnot] at hexecuted
          omega
        · rw [hfits.outcome, hsome]
          rfl
    obtain ⟨raw, hfind, hdigest⟩ := hraw hnotNotice
    refine ⟨raw, ?_, hdigest⟩
    rw [hkey, hraws]
    exact hfind

end publication

/-! ## Every job has a record -/

/-- Every job has a record. -/
def Recorded (s : Store) : Prop :=
  ∀ jobId row, s.jobs.find? jobId = some row → ∃ r, s.records.find? jobId = some r

section recorded

variable {s s' : Store}

/-- The end of an execution adds no job. -/
lemma jobs_finalize {event : TransitionEvent} {raw : RawReceiptArtifact} {receipt : ReceiptArtifact}
    {record : JobRecord}
    (h : Store.finalizeClaimedExecution event raw receipt s = (.ok record, s')) :
    s'.jobs = s.jobs := by
  obtain ⟨-, -, job, s₁, s₂, -, -, hraw, happend, -, hins⟩ :=
    Store.finalizeClaimedExecution_ok.mp h
  obtain ⟨rawReceipts, -, -, rfl⟩ := insertRaw_ok.mp hraw
  obtain ⟨current, -, -, -, -, rfl⟩ := compareAndAppend_ok.mp happend
  obtain ⟨receipts, pointers, -, -, -, rfl⟩ := insertReceipt_ok.mp hins
  rfl

lemma Recorded.of_jobs (h : Recorded s) (hext : s.Extends s') (hjobs : s'.jobs = s.jobs) :
    Recorded s' := by
  intro jobId row hrow
  rw [hjobs] at hrow
  obtain ⟨r, hr⟩ := h jobId row hrow
  obtain ⟨r', hr', -⟩ := hext.records jobId r hr
  exact ⟨r', hr'⟩

/-- A seal adds a job and its record. -/
lemma Recorded.admits {job : SealedJob} {submission : SubmissionMetadata} {pending : JobRecord}
    {eventId occurredAt : String} {s₁ : Store} (h : Recorded s)
    (hinit : initialRecord job eventId occurredAt = .ok pending)
    (hadmits : Store.Admits s s₁ job submission pending) : Recorded s₁ := by
  obtain ⟨-, hpending, hrest⟩ := RecordMoves.admits hinit hadmits
  intro jobId row hrow
  by_cases hjob : jobId = job.jobId
  · exact ⟨pending, by rw [hjob]; exact hpending⟩
  · rw [hrest jobId hjob]
    obtain ⟨rfl, -⟩ := initialRecord_ok.mp hinit
    obtain ⟨-, s₀, hinsert, hrecord⟩ := hadmits
    obtain ⟨jobs, -, hins, rfl⟩ := insertJob_ok.mp hinsert
    obtain ⟨records, -, -, -, rfl⟩ := (insertRecordAndInitialLedger_ok ⟨rfl, rfl⟩).mp hrecord
    have hold := (Table.find?_insert? hins jobId).symm.trans hrow
    rw [if_neg (Ne.symm hjob)] at hold
    exact h jobId row hold

lemma Recorded.closes {event : TransitionEvent} {closed : JobRecord} {notice : ReceiptArtifact}
    {s₂ : Store} (h : Recorded s) (happend : Connection.compareAndAppend event s = (.ok closed, s₂))
    (hins : Connection.insertReceipt notice s₂ = (.ok (), s')) : Recorded s' := by
  have hext := (Store.Extends.compareAndAppend happend).trans (Store.Extends.insertReceipt hins)
  refine h.of_jobs hext ?_
  obtain ⟨current, -, -, -, -, rfl⟩ := compareAndAppend_ok.mp happend
  obtain ⟨receipts, pointers, -, -, -, rfl⟩ := insertReceipt_ok.mp hins
  rfl

/-- Every call of the service leaves every job with a record. -/
lemma Recorded.run (c : StoreWrite) (r : c.Res) (hc : c.isSystem = true) (h : Recorded s)
    (hrun : c.run s = (.ok r, s')) : Recorded s' := by
  have hext := extends_run c s r s' hrun
  cases c with
  | sealRejected job pendingEventId pendingOccurredAt closeEvent notice submission limits =>
      obtain ⟨-, -, -, -, -, -, pending, s₁, closed, s₂, hinit, hadmits, happend, -, hins⟩ :=
        Store.sealRejected_ok hrun
      exact (h.admits hinit hadmits).closes happend hins
  | sealWithLineageAdmission job pendingEventId pendingOccurredAt circuitEvent circuitNotice
      submission limits failurePolicy =>
      obtain ⟨-, -, pending, s₁, hinit, hadmits, hcases⟩ := Store.sealWithLineageAdmission_ok hrun
      rcases hcases with ⟨-, -, rfl⟩ | ⟨-, -, -, -, -, s₂, happend, -, hins⟩
      · exact h.admits hinit hadmits
      · exact (h.admits hinit hadmits).closes happend hins
  | compareAndAppend event =>
      obtain ⟨current, -, -, -, -, rfl⟩ := compareAndAppend_ok.mp (Tx.transaction_ok.mp hrun)
      exact h.of_jobs hext rfl
  | completeClaimedExecution event raw receipt =>
      obtain ⟨-, -, hfinal⟩ := Store.completeClaimedExecution_ok.mp hrun
      exact h.of_jobs hext (jobs_finalize hfinal)
  | markClaimedExecutionUnknown event raw receipt =>
      obtain ⟨-, -, hfinal⟩ := Store.markClaimedExecutionUnknown_ok.mp hrun
      exact h.of_jobs hext (jobs_finalize hfinal)
  | createAuthBootstrap session =>
      obtain ⟨-, -, _, bootstraps, -, -, rfl⟩ := Store.createAuthBootstrap_ok hrun
      exact h.of_jobs hext rfl
  | issueRegistrationCeremony tokenDigest ceremony =>
      obtain ⟨-, hins⟩ := Store.issueRegistrationCeremony_ok hrun
      obtain ⟨ceremonies, -, -, rfl⟩ := insertCeremony_ok.mp hins
      exact h.of_jobs hext rfl
  | completeRegistration tokenDigest ceremonyId credential consumedAt =>
      obtain ⟨-, ceremony, bootstrap, s₁, s₂, -, -, -, -, -, -, -, hins, rfl, rfl⟩ :=
        Store.completeRegistration_ok hrun
      obtain ⟨credentials, -, -, rfl⟩ := insertCredential_ok.mp hins
      exact h.of_jobs hext rfl
  | issueApprovalCeremony ceremony =>
      obtain ⟨-, -, -, -, hins⟩ := Store.issueApprovalCeremony_ok hrun
      obtain ⟨ceremonies, -, -, rfl⟩ := insertCeremony_ok.mp hins
      exact h.of_jobs hext rfl
  | claimWithApproval ceremony credential verified approval claimEvent =>
      obtain ⟨hcontract, -, -, -, s₁, s₂, s₃, rfl, rfl, hins, happend⟩ :=
        Store.claimWithApproval_ok hrun
      obtain ⟨approvals, -, -, rfl⟩ := (insertApproval_ok hcontract.userVerified).mp hins
      obtain ⟨current, -, -, -, -, rfl⟩ := compareAndAppend_ok.mp happend
      exact h.of_jobs hext rfl
  | _ => cases hc

end recorded

/-! ## The invariant -/

/-- What holds of every store that the service writes. -/
structure SystemInv (s : Store) : Prop where
  ledger : LedgerInv s
  settled : ∀ jobId, Settled s jobId
  recorded : Recorded s

namespace SystemInv

variable {s s' : Store}

lemma empty : SystemInv Store.empty := by
  refine ⟨.empty, fun jobId => ⟨fun _ => ⟨rfl, rfl⟩, fun r hr => ?_⟩, fun jobId row hrow => ?_⟩
  · cases hr
  · cases hrow

lemma valid (h : SystemInv s) {jobId : String} {r : JobRecord}
    (hr : s.records.find? jobId = some r) : r.Valid :=
  (h.ledger.chain r (Table.mem_of_find? hr)).valid

/-- A job that was not there has no receipts. -/
lemma unpublished_of_none (h : SystemInv s) {jobId : String}
    (hnone : s.records.find? jobId = none) :
    s.rawReceipts.find? jobId = none ∧ s.receiptCurrent.find? jobId = none := by
  refine (h.settled jobId).unpublished fun r hr => ?_
  rw [hnone] at hr
  cases hr

/-- A seal leaves a job that is pending and has no receipts. -/
lemma settled_admits {job : SealedJob} {submission : SubmissionMetadata} {pending : JobRecord}
    {eventId occurredAt : String} (h : SystemInv s)
    (hinit : initialRecord job eventId occurredAt = .ok pending)
    (hadmits : Store.Admits s s' job submission pending) :
    s'.rawReceipts.find? job.jobId = none ∧ s'.receiptCurrent.find? job.jobId = none ∧
      s'.records.find? job.jobId = some pending ∧ pending.state = .pending := by
  obtain ⟨hnone, hpending, -⟩ := RecordMoves.admits hinit hadmits
  obtain ⟨hraw, hpointer⟩ := h.unpublished_of_none hnone
  obtain ⟨rfl, -⟩ := initialRecord_ok.mp hinit
  obtain ⟨-, s₀, hjob, hrecord⟩ := hadmits
  obtain ⟨jobs, -, -, rfl⟩ := insertJob_ok.mp hjob
  obtain ⟨records, -, -, -, rfl⟩ := (insertRecordAndInitialLedger_ok ⟨rfl, rfl⟩).mp hrecord
  exact ⟨hraw, hpointer, hpending, rfl⟩

lemma admits {job : SealedJob} {submission : SubmissionMetadata} {pending : JobRecord}
    {eventId occurredAt : String} (h : SystemInv s) (hledger : LedgerInv s') (hrecorded : Recorded s')
    (hinit : initialRecord job eventId occurredAt = .ok pending)
    (hadmits : Store.Admits s s' job submission pending) : SystemInv s' := by
  refine ⟨hledger, fun jobId => ?_, hrecorded⟩
  by_cases hjob : jobId = job.jobId
  · subst hjob
    obtain ⟨hraw, hpointer, hpending, hstate⟩ := h.settled_admits hinit hadmits
    refine ⟨fun _ => ⟨hraw, hpointer⟩, fun r hr hfinal => ?_⟩
    rw [hpending] at hr
    cases hr
    rw [hstate] at hfinal
    cases hfinal
  · exact (AgreeAt.admits hinit hadmits hjob).settled (h.settled jobId)

/-- A seal that closes the job at once. -/
lemma closes {job : SealedJob} {submission : SubmissionMetadata} {pending closed : JobRecord}
    {eventId occurredAt : String} {event : TransitionEvent} {notice : ReceiptArtifact}
    {s₁ s₂ : Store} (h : SystemInv s) (hledger : LedgerInv s') (hrecorded : Recorded s')
    (hinit : initialRecord job eventId occurredAt = .ok pending)
    (hadmits : Store.Admits s s₁ job submission pending) (hid : event.jobId = job.jobId)
    (hkind : event.kind = .closePending) (hnotice : notice.jobId = job.jobId)
    (happend : Connection.compareAndAppend event s₁ = (.ok closed, s₂))
    (hverify : verifyReceipt notice = .ok ())
    (hvalid : validateReceiptPublication notice s₂ = .ok ())
    (hins : Connection.insertReceipt notice s₂ = (.ok (), s')) : SystemInv s' := by
  refine ⟨hledger, fun jobId => ?_, hrecorded⟩
  by_cases hjob : jobId = job.jobId
  · subst hjob
    obtain ⟨-, hpointer, -, -⟩ := h.settled_admits hinit hadmits
    have hfind := find?_of_compareAndAppend happend job.jobId
    rw [if_pos hid.symm] at hfind
    obtain ⟨current, -, happly, -, -, rfl⟩ := compareAndAppend_ok.mp happend
    obtain ⟨-, hmoves, hvalidClosed⟩ := applyTransition_ok.mp happly
    rw [← hnotice] at hfind hpointer ⊢
    refine settled_of_publication hverify hvalid hpointer hins ?_ ?_
    · intro r hr hunknown
      rw [hfind] at hr
      cases hr
      cases hmoves with
      | close _ _ _ _ _ _ _ hres => subst hres; cases hunknown
      | claim hk | complete hk | mark hk | reconcile hk =>
          rw [hkind] at hk
          cases hk
    · intro r hr
      rw [hfind] at hr
      cases hr
      exact hvalidClosed
  · have hagree := (AgreeAt.admits hinit hadmits hjob).trans
      (AgreeAt.compareAndAppend happend (by rw [hid]; exact hjob))
    exact (hagree.trans (AgreeAt.insertReceipt hins (by rw [hnotice]; exact hjob))).settled
      (h.settled jobId)

/-- A claim moves a pending job to a running one. -/
lemma claims {event : TransitionEvent} {updated : JobRecord} (h : SystemInv s)
    (hledger : LedgerInv s') (hrecorded : Recorded s') (hkind : event.kind = .claimExecution)
    (happend : Connection.compareAndAppend event s = (.ok updated, s')) : SystemInv s' := by
  refine ⟨hledger, fun jobId => ?_, hrecorded⟩
  by_cases hjob : jobId = event.jobId
  · subst hjob
    have hfind := find?_of_compareAndAppend happend event.jobId
    rw [if_pos rfl] at hfind
    obtain ⟨current, hcurrent, happly, -, -, rfl⟩ := compareAndAppend_ok.mp happend
    obtain ⟨-, hmoves, -⟩ := applyTransition_ok.mp happly
    cases hmoves with
    | claim _ hpending _ _ _ hres =>
        subst hres
        refine ⟨fun _ => (h.settled event.jobId).unpublished fun r hr => ?_, fun r hr hfinal => ?_⟩
        · rw [hcurrent] at hr
          cases hr
          rw [hpending]
          rfl
        · rw [hfind] at hr
          cases hr
          cases hfinal
    | close hk | complete hk | mark hk | reconcile hk =>
        rw [hkind] at hk
        cases hk
  · exact (AgreeAt.compareAndAppend happend hjob).settled (h.settled jobId)

/-- The end of an execution settles its job. -/
lemma finalize {event : TransitionEvent} {raw : RawReceiptArtifact} {receipt : ReceiptArtifact}
    {record : JobRecord} (h : SystemInv s) (hledger : LedgerInv s') (hrecorded : Recorded s')
    (hkind : event.kind = .completeExecution ∨ event.kind = .markUnknown ∧
      receipt.canonicalReceipt.field "reason_code" = .ofOption event.reasonCode)
    (hfinal : Store.finalizeClaimedExecution event raw receipt s = (.ok record, s')) :
    SystemInv s' := by
  obtain ⟨hverify, ⟨hid, -, hreceiptId, -⟩, job, s₁, s₂, -, -, hraw, happend, hvalid, hins⟩ :=
    Store.finalizeClaimedExecution_ok.mp hfinal
  refine ⟨hledger, fun jobId => ?_, hrecorded⟩
  by_cases hjob : jobId = event.jobId
  · subst hjob
    have hfind := find?_of_compareAndAppend happend event.jobId
    rw [if_pos rfl] at hfind
    obtain ⟨rawReceipts, -, -, rfl⟩ := insertRaw_ok.mp hraw
    obtain ⟨current, hcurrent, happly, -, -, rfl⟩ := compareAndAppend_ok.mp happend
    obtain ⟨-, hmoves, hvalidUpdated⟩ := applyTransition_ok.mp happly
    have hrunning : current.state = .running := by
      cases hmoves with
      | complete _ hs => exact hs
      | mark _ hs => exact hs
      | claim hk | close hk | reconcile hk =>
          rw [hk] at hkind
          rcases hkind with hk' | ⟨hk', -⟩
          · cases hk'
          · cases hk'
    have hnone := ((h.settled event.jobId).unpublished fun r hr => by
      have hcurrent' : s.records.find? event.jobId = some current := hcurrent
      rw [hcurrent'] at hr
      cases hr
      rw [hrunning]
      rfl).2
    have hsame : receipt.jobId = event.jobId := hreceiptId.trans hid.symm
    rw [← hsame] at hfind hnone ⊢
    refine settled_of_publication hverify hvalid hnone hins ?_ ?_
    · intro r hr hunknown
      rw [hfind] at hr
      cases hr
      cases hmoves with
      | mark hk _ _ _ reason hreason hres =>
          rcases hkind with hk' | ⟨-, hnotice⟩
          · rw [hk] at hk'
            cases hk'
          · rw [hnotice, hres, hreason]
            rfl
      | complete _ _ _ _ _ _ _ _ hres => subst hres; cases hunknown
      | claim hk | close hk | reconcile hk =>
          rw [hk] at hkind
          rcases hkind with hk' | ⟨hk', -⟩
          · cases hk'
          · cases hk'
    · intro r hr
      rw [hfind] at hr
      cases hr
      exact hvalidUpdated
  · have hagree := (AgreeAt.insertRaw hraw (by rw [← hid]; exact hjob)).trans
      (AgreeAt.compareAndAppend happend hjob)
    refine (hagree.trans (AgreeAt.insertReceipt hins ?_)).settled (h.settled jobId)
    rw [hreceiptId, ← hid]
    exact hjob

/-- A change outside the tables of jobs and receipts. -/
lemma of_tables (h : SystemInv s) (hledger : LedgerInv s') (hrecorded : Recorded s') (hjobs : s'.jobs = s.jobs)
    (hrecords : s'.records = s.records) (hraws : s'.rawReceipts = s.rawReceipts)
    (hreceipts : s'.receipts = s.receipts) (hpointers : s'.receiptCurrent = s.receiptCurrent) :
    SystemInv s' :=
  ⟨hledger, fun jobId =>
    (AgreeAt.of_tables hjobs hrecords hraws hreceipts hpointers jobId).settled (h.settled jobId),
    hrecorded⟩

/-- **Every call of the service keeps the invariant.** -/
theorem run (c : StoreWrite) (s : Store) (r : c.Res) (s' : Store) (hc : c.isSystem = true)
    (h : SystemInv s) (hrun : c.run s = (.ok r, s')) : SystemInv s' := by
  have hledger := LedgerInv.run c s r s' h.ledger hrun
  have hrecorded := h.recorded.run c r hc hrun
  cases c with
  | sealRejected job pendingEventId pendingOccurredAt closeEvent notice submission limits =>
      obtain ⟨-, hverify, hkind, -, hnotice, hid, pending, s₁, closed, s₂, hinit, hadmits, happend,
        hvalid, hins⟩ := Store.sealRejected_ok hrun
      exact h.closes hledger hrecorded hinit hadmits hid hkind hnotice happend hverify hvalid hins
  | sealWithLineageAdmission job pendingEventId pendingOccurredAt circuitEvent circuitNotice
      submission limits failurePolicy =>
      obtain ⟨-, hverify, pending, s₁, hinit, hadmits, hcases⟩ :=
        Store.sealWithLineageAdmission_ok hrun
      rcases hcases with ⟨-, -, rfl⟩ | ⟨-, hkind, hid, -, hnotice, s₂, happend, hvalid, hins⟩
      · exact h.admits hledger hrecorded hinit hadmits
      · exact h.closes hledger hrecorded hinit hadmits hid hkind hnotice happend hverify hvalid hins
  | compareAndAppend event =>
      exact h.claims hledger hrecorded (of_decide_eq_true hc) (Tx.transaction_ok.mp hrun)
  | completeClaimedExecution event raw receipt =>
      obtain ⟨-, hkind, hfinal⟩ := Store.completeClaimedExecution_ok.mp hrun
      exact h.finalize hledger hrecorded (.inl hkind) hfinal
  | markClaimedExecutionUnknown event raw receipt =>
      obtain ⟨-, hkind, hfinal⟩ := Store.markClaimedExecutionUnknown_ok.mp hrun
      exact h.finalize hledger hrecorded (.inr ⟨hkind, of_decide_eq_true hc⟩) hfinal
  | createAuthBootstrap session =>
      obtain ⟨-, -, _, bootstraps, -, -, rfl⟩ := Store.createAuthBootstrap_ok hrun
      exact h.of_tables hledger hrecorded rfl rfl rfl rfl rfl
  | issueRegistrationCeremony tokenDigest ceremony =>
      obtain ⟨-, hins⟩ := Store.issueRegistrationCeremony_ok hrun
      obtain ⟨ceremonies, -, -, rfl⟩ := insertCeremony_ok.mp hins
      exact h.of_tables hledger hrecorded rfl rfl rfl rfl rfl
  | completeRegistration tokenDigest ceremonyId credential consumedAt =>
      obtain ⟨-, ceremony, bootstrap, s₁, s₂, -, -, -, -, -, -, -, hins, rfl, rfl⟩ :=
        Store.completeRegistration_ok hrun
      obtain ⟨credentials, -, -, rfl⟩ := insertCredential_ok.mp hins
      exact h.of_tables hledger hrecorded rfl rfl rfl rfl rfl
  | issueApprovalCeremony ceremony =>
      obtain ⟨-, -, -, -, hins⟩ := Store.issueApprovalCeremony_ok hrun
      obtain ⟨ceremonies, -, -, rfl⟩ := insertCeremony_ok.mp hins
      exact h.of_tables hledger hrecorded rfl rfl rfl rfl rfl
  | claimWithApproval ceremony credential verified approval claimEvent =>
      obtain ⟨hcontract, -, -, -, s₁, s₂, s₃, rfl, rfl, hins, happend⟩ :=
        Store.claimWithApproval_ok hrun
      obtain ⟨approvals, -, -, rfl⟩ := (insertApproval_ok hcontract.userVerified).mp hins
      refine claims ?_ hledger hrecorded hcontract.kind happend
      exact h.of_tables (h.ledger.of_tables rfl rfl rfl) h.recorded rfl rfl rfl rfl rfl
  | _ => cases hc

/-- **The invariant holds in every store that the service writes.** -/
theorem of_reachable (h : ReachableBy (fun c => c.isSystem = true) s) : SystemInv s :=
  h.induction empty fun c s r s' hc hs hrun => run c s r s' hc hs hrun

end SystemInv

end AgentRuntimeOps.RootActions
