import Mathlib
import AgentRuntimeOps.RootActions.PosixStoreAuth

/-!
# What the steps of a transaction do

One lemma for each function of the namespace `Connection`: it succeeds exactly when its guards
hold, and then the store is the old one with the stated tables replaced.  The proofs about the
store use these lemmas and never unfold the functions.
-/

set_option linter.unusedSectionVars false

namespace AgentRuntimeOps.RootActions

open AgentRuntimeOps.Lib

/-! ## Reading -/

section reading

variable {s : Store} {jobId : String}

lemma readRecord_ok {record : JobRecord} :
    s.readRecord jobId = .ok record ↔ s.records.find? jobId = some record ∧ record.Valid := by
  unfold Store.readRecord
  simp only [except_bind_ok, orRaise_ok, validateRecord_ok, exists_const, except_pure_ok]
  constructor
  · rintro ⟨r, hr, hvalid, rfl⟩
    exact ⟨hr, hvalid⟩
  · rintro ⟨hr, hvalid⟩
    exact ⟨record, hr, hvalid, rfl⟩

lemma jobId_of_readRecord {record : JobRecord} (h : s.readRecord jobId = .ok record) :
    record.jobId = jobId :=
  Table.key_of_find? (readRecord_ok.mp h).1

variable [UnicodeData]

lemma verifyJob_ok {job : SealedJob} {u : Unit} :
    verifyJob job = .ok u ↔ sealTypedManifest (Document.canonical job.canonicalManifest) = .ok job := by
  unfold verifyJob
  simp only [except_bind_ok, convert_ok, require_ok]
  constructor
  · rintro ⟨verified, h, rfl⟩
    exact h
  · intro h
    exact ⟨job, h, rfl⟩

lemma verifyReceipt_ok {artifact : ReceiptArtifact} {u : Unit} :
    verifyReceipt artifact = .ok u ↔
      sealReceipt (Document.canonical artifact.canonicalReceipt) = .ok artifact := by
  unfold verifyReceipt
  simp only [except_bind_ok, convert_ok, require_ok]
  constructor
  · rintro ⟨verified, h, rfl⟩
    exact h
  · intro h
    exact ⟨artifact, h, rfl⟩

lemma readSealed_ok {job : SealedJob} :
    s.readSealed jobId = .ok job ↔
      ∃ row, s.jobs.find? jobId = some row ∧ verifyJob row.job = .ok () ∧ row.job = job := by
  unfold Store.readSealed
  simp only [except_bind_ok, orRaise_ok, except_pure_ok]
  constructor
  · rintro ⟨row, hrow, _, hverify, hjob⟩
    exact ⟨row, hrow, hverify, hjob⟩
  · rintro ⟨row, hrow, hverify, hjob⟩
    exact ⟨row, hrow, (), hverify, hjob⟩

lemma jobId_of_readSealed {job : SealedJob} (h : s.readSealed jobId = .ok job) :
    job.jobId = jobId := by
  obtain ⟨row, hrow, -, rfl⟩ := readSealed_ok.mp h
  have hkey := Table.key_of_find? hrow
  exact hkey

end reading

/-! ## Jobs, records and the ledger -/

namespace Connection

variable {s s' : Store}

lemma insertJob_ok {job : SealedJob} {submission : SubmissionMetadata} {u : Unit} :
    insertJob job submission s = (.ok u, s') ↔
      ∃ jobs, (∀ row ∈ s.jobs.rows, row.job.jobDigest ≠ job.jobDigest) ∧
        s.jobs.insert? ⟨job, submission⟩ = some jobs ∧ s' = { s with jobs := jobs } := by
  unfold insertJob
  rw [Tx.writes_ok]
  simp only [except_bind_ok, insertRow_ok, except_pure_ok, decide_eq_false_iff_not]
  constructor
  · rintro ⟨jobs, ⟨h₁, h₂⟩, rfl⟩
    exact ⟨jobs, h₁, h₂, rfl⟩
  · rintro ⟨jobs, h₁, h₂, rfl⟩
    exact ⟨jobs, ⟨h₁, h₂⟩, rfl⟩

/-- The first ledger row of a record. -/
def initialEntry (record : JobRecord) (sequence : Nat) : LedgerEntry where
  sequence := sequence
  action := "sealed_pending"
  priorState := none
  nextState := "pending"
  recordRevision := 0
  eventId := record.lastEventId
  occurredAt := record.lastChangedAt
  jobId := record.jobId
  jobDigest := record.jobDigest
  terminalOutcome := none
  reasonCode := none

lemma insertRecordAndInitialLedger_ok {record : JobRecord} {u : Unit}
    (hpending : record.terminalOutcome = none ∧ record.reasonCode = none) :
    insertRecordAndInitialLedger record s = (.ok u, s') ↔
      ∃ records, s.records.insert? record = some records ∧ s.ledger.length < maxRowId ∧
        (∀ e ∈ s.ledger, e.jobId = record.jobId → e.eventId ≠ record.lastEventId) ∧
        s' = { s with
          records := records
          ledger := s.ledger ++ [initialEntry record (s.ledger.length + 1)] } := by
  have hrow : ({ record with terminalOutcome := none, reasonCode := none } : JobRecord) = record := by
    obtain ⟨ho, hr⟩ := hpending
    cases record
    simp_all
  unfold insertRecordAndInitialLedger
  simp only [Tx.bind_ok, Tx.writes_ok, except_bind_ok, insertRow_ok, insertLedgerRow_ok,
    except_pure_ok, hrow]
  constructor
  · rintro ⟨_, s₁, ⟨records, ⟨-, hins⟩, rfl⟩, ledger, ⟨hlen, hfresh, rfl⟩, rfl⟩
    exact ⟨records, hins, hlen, hfresh, rfl⟩
  · rintro ⟨records, hins, hlen, hfresh, rfl⟩
    exact ⟨(), { s with records := records }, ⟨records, ⟨fun _ _ => trivial, hins⟩, rfl⟩, _,
      ⟨hlen, hfresh, rfl⟩, rfl⟩

lemma insertLedger_ok {prior updated : JobRecord} {event : TransitionEvent} {u : Unit} :
    insertLedger prior updated event s = (.ok u, s') ↔
      s.ledger.length < maxRowId ∧
        (∀ e ∈ s.ledger, e.jobId = updated.jobId → e.eventId ≠ event.eventId) ∧
        s' = { s with
          ledger := s.ledger ++ [transitionEntry prior updated event (s.ledger.length + 1)] } := by
  unfold insertLedger
  rw [Tx.writes_ok]
  simp only [except_bind_ok, insertLedgerRow_ok, except_pure_ok]
  constructor
  · rintro ⟨ledger, ⟨h₁, h₂, rfl⟩, rfl⟩
    exact ⟨h₁, h₂, rfl⟩
  · rintro ⟨h₁, h₂, rfl⟩
    exact ⟨_, ⟨h₁, h₂, rfl⟩, rfl⟩

/-- The records after the update of `_compare_and_append`. -/
def updatedRecords (s : Store) (current updated : JobRecord) :
    Table JobRecord String (fun row => row.jobId) :=
  s.records.updateWhere
    (fun row => row.jobId = updated.jobId && row.jobDigest = updated.jobDigest &&
      row.revision = current.revision)
    (assignRecord updated) (jobId_assignRecord updated)

/-- The store after a transition. -/
def appended (s : Store) (current updated : JobRecord) (event : TransitionEvent) : Store :=
  { s with
    records := updatedRecords s current updated
    ledger := s.ledger ++ [transitionEntry current updated event (s.ledger.length + 1)] }

/-- A successful transition keeps the identity of the record and moves its revision by one. -/
lemma identity_of_transition {current updated : JobRecord} {event : TransitionEvent}
    (h : applyTransition current event = .ok updated) :
    updated.jobId = current.jobId ∧ updated.jobDigest = current.jobDigest ∧
      updated.revision = current.revision + 1 ∧ updated.lastEventId = event.eventId ∧
      updated.lastChangedAt = event.occurredAt := by
  obtain ⟨-, hmoves, -⟩ := applyTransition_ok.mp h
  cases hmoves with
  | claim _ _ _ _ _ hres => subst hres; exact ⟨rfl, rfl, rfl, rfl, rfl⟩
  | close _ _ _ _ _ _ _ hres => subst hres; exact ⟨rfl, rfl, rfl, rfl, rfl⟩
  | complete _ _ _ _ _ _ _ _ hres => subst hres; exact ⟨rfl, rfl, rfl, rfl, rfl⟩
  | mark _ _ _ _ _ _ hres => subst hres; exact ⟨rfl, rfl, rfl, rfl, rfl⟩
  | reconcile _ _ _ _ _ _ _ _ hres => subst hres; exact ⟨rfl, rfl, rfl, rfl, rfl⟩

/-- What a lookup sees after a transition: the updated record at its key, the rest as before. -/
lemma find?_updatedRecords {current updated : JobRecord}
    (hcurrent : s.records.find? updated.jobId = some current)
    (hdigest : updated.jobDigest = current.jobDigest) (k : String) :
    (updatedRecords s current updated).find? k =
      if k = updated.jobId then some updated else s.records.find? k := by
  have hid : current.jobId = updated.jobId := Table.key_of_find? hcurrent
  unfold updatedRecords
  rw [Table.find?_updateWhere]
  by_cases hk : k = updated.jobId
  · subst hk
    rw [if_pos rfl, hcurrent, Option.map_some]
    have hassign : assignRecord updated current = updated := by
      unfold assignRecord
      rw [hid, ← hdigest]
    simp [hid, hdigest, hassign]
  · rw [if_neg hk]
    rcases hr : s.records.find? k with _ | row
    · rfl
    · have hrow : row.jobId = k := Table.key_of_find? hr
      have hne : row.jobId ≠ updated.jobId := by rw [hrow]; exact hk
      simp [hne]

/-- **What `_compare_and_append` does.** -/
lemma compareAndAppend_ok {event : TransitionEvent} {updated : JobRecord} :
    compareAndAppend event s = (.ok updated, s') ↔
      ∃ current, s.records.find? event.jobId = some current ∧
        applyTransition current event = .ok updated ∧
        (∀ e ∈ s.ledger, e.jobId = event.jobId → e.eventId ≠ event.eventId) ∧
        s.ledger.length < maxRowId ∧ s' = appended s current updated event := by
  unfold compareAndAppend
  simp only [Tx.bind_ok, Tx.readsOrRaise_ok, Tx.reads_ok, Tx.require_ok, Tx.ofExcept_ok,
    Tx.writes_ok, except_bind_ok, updateOne_ok, except_pure_ok, insertLedger_ok, Tx.pure_ok,
    readRecord_ok]
  constructor
  · rintro ⟨current, _, ⟨⟨hcur, -⟩, rfl⟩, _, _, ⟨rfl, rfl⟩, _, _, ⟨-, rfl⟩, _, _, ⟨happly, rfl⟩,
      _, _, ⟨records, ⟨-, rfl⟩, rfl⟩, _, _, ⟨hlen, hfresh, rfl⟩, rfl, rfl⟩
    have hid := identity_of_transition happly
    have hkey : current.jobId = event.jobId := Table.key_of_find? hcur
    refine ⟨current, hcur, happly, ?_, hlen, rfl⟩
    rw [hid.1, hkey] at hfresh
    exact hfresh
  · rintro ⟨current, hcur, happly, hfresh, hlen, rfl⟩
    have hchecked := (applyTransition_ok.mp happly).1
    have hid := identity_of_transition happly
    have hkey : current.jobId = event.jobId := Table.key_of_find? hcur
    have hreplay : (s.ledger.any fun e => e.jobId = event.jobId && e.eventId = event.eventId) =
        false := by
      rw [List.any_eq_false]
      intro e he
      simpa using hfresh e he
    have hcount : s.records.countWhere (fun row => row.jobId = updated.jobId &&
        row.jobDigest = updated.jobDigest && row.revision = current.revision) = 1 := by
      apply Table.countWhere_eq_one hcur
      · simp [hid.1, hid.2.1]
      · intro row hrow
        simp only [Bool.and_eq_true, decide_eq_true_eq] at hrow
        rw [hrow.1.1, hid.1, hkey]
    refine ⟨current, s, ⟨⟨hcur, hchecked.valid⟩, rfl⟩, _, s, ⟨rfl, rfl⟩, (), s, ⟨hreplay, rfl⟩,
      updated, s, ⟨happly, rfl⟩, (), _, ⟨_, ⟨hcount, rfl⟩, rfl⟩, (), _, ⟨hlen, ?_, rfl⟩, rfl, rfl⟩
    intro e he hjob
    rw [hid.1, hkey] at hjob
    exact hfresh e he hjob

/-- The updated record is one of the job of the event. -/
lemma compareAndAppend_jobId {event : TransitionEvent} {updated : JobRecord}
    (h : compareAndAppend event s = (.ok updated, s')) : updated.jobId = event.jobId := by
  obtain ⟨current, hcurrent, happly, -⟩ := compareAndAppend_ok.mp h
  exact (identity_of_transition happly).1.trans (Table.key_of_find? hcurrent)

/-- What a lookup sees after `_compare_and_append`. -/
lemma find?_of_compareAndAppend {event : TransitionEvent} {updated : JobRecord}
    (h : compareAndAppend event s = (.ok updated, s')) (k : String) :
    s'.records.find? k = if k = event.jobId then some updated else s.records.find? k := by
  have hid := compareAndAppend_jobId h
  obtain ⟨current, hcurrent, happly, -, -, rfl⟩ := compareAndAppend_ok.mp h
  rw [← hid] at hcurrent ⊢
  exact find?_updatedRecords hcurrent (identity_of_transition happly).2.1 k

/-! ## Receipts -/

variable [UnicodeData]

lemma insertRaw_ok {raw : RawReceiptArtifact} {u : Unit} :
    insertRaw raw s = (.ok u, s') ↔
      ∃ rawReceipts,
        (∀ row ∈ s.rawReceipts.rows,
          row.reference.rootStorageId ≠ raw.reference.rootStorageId) ∧
        s.rawReceipts.insert? raw = some rawReceipts ∧
        s' = { s with rawReceipts := rawReceipts } := by
  unfold insertRaw
  rw [Tx.writes_ok]
  simp only [except_bind_ok, insertRow_ok, except_pure_ok, decide_eq_false_iff_not]
  constructor
  · rintro ⟨rawReceipts, ⟨h₁, h₂⟩, rfl⟩
    exact ⟨rawReceipts, h₁, h₂, rfl⟩
  · rintro ⟨rawReceipts, h₁, h₂, rfl⟩
    exact ⟨rawReceipts, ⟨h₁, h₂⟩, rfl⟩

lemma insertReceipt_ok {artifact : ReceiptArtifact} {u : Unit} :
    insertReceipt artifact s = (.ok u, s') ↔
      ∃ receipts pointers,
        (∀ row ∈ s.currentReceipt? artifact.jobId,
          row.kind = "unknown" ∧ artifact.kind ≠ "unknown") ∧
        s.receipts.insert? (receiptRow artifact) = some receipts ∧
        PointerMoves s artifact pointers ∧
        s' = { s with receipts := receipts, receiptCurrent := pointers } := by
  unfold insertReceipt PointerMoves
  simp only [Tx.bind_ok, Tx.reads_ok, Tx.require_ok, Tx.writes_ok, Tx.ite_ok, except_bind_ok,
    insertRow_ok, updateOne_ok, except_pure_ok]
  constructor
  · rintro ⟨current, s₁, ⟨rfl, rfl⟩, _, _, ⟨hkind, rfl⟩, _, _, ⟨receipts, ⟨-, hins⟩, rfl⟩,
      ⟨hnone, pointers, ⟨-, hptr⟩, rfl⟩ | ⟨hsome, pointers, ⟨hcount, rfl⟩, rfl⟩⟩
    · exact ⟨receipts, pointers, hkind, hins, .inl ⟨hnone, hptr⟩, rfl⟩
    · exact ⟨receipts, _, hkind, hins, .inr ⟨hsome, hcount, rfl⟩, rfl⟩
  · rintro ⟨receipts, pointers, hkind, hins, hptr, rfl⟩
    refine ⟨_, s, ⟨rfl, rfl⟩, (), s, ⟨hkind, rfl⟩, (), _, ⟨receipts, ⟨fun _ _ => trivial, hins⟩, rfl⟩, ?_⟩
    rcases hptr with ⟨hnone, hptr⟩ | ⟨hsome, hcount, rfl⟩
    · exact .inl ⟨hnone, pointers, ⟨fun _ _ => trivial, hptr⟩, rfl⟩
    · exact .inr ⟨hsome, _, ⟨hcount, rfl⟩, rfl⟩

end Connection

/-! ## Sealing and finalizing -/

namespace Store

open Connection

variable [UnicodeData] {s s' : Store}

/-- A job with its initial record has been added to the store. -/
def Admits (s s₁ : Store) (job : SealedJob) (submission : SubmissionMetadata)
    (pending : JobRecord) : Prop :=
  s.jobs.find? job.jobId = none ∧
    ∃ s₀, insertJob job submission s = (.ok (), s₀) ∧
      insertRecordAndInitialLedger pending s₀ = (.ok (), s₁)

lemma sealPending_ok {job : SealedJob} {eventId occurredAt : String}
    {submission : Option SubmissionMetadata} {limits : SubmissionLimits} {record : JobRecord}
    (h : sealPending job eventId occurredAt submission limits s = (.ok record, s')) :
    verifyJob job = .ok () ∧ initialRecord job eventId occurredAt = .ok record ∧
      Admits s s' job (submission.getD ⟨0, 0, 0, occurredAt⟩) record := by
  unfold sealPending at h
  simp only [Tx.bind_ok, Tx.ofExcept_ok, Tx.reads_ok, Tx.require_ok, Tx.readsOrRaise_ok,
    Tx.transaction_ok, Tx.pure_ok] at h
  obtain ⟨_, _, ⟨hverify, rfl⟩, record', _, ⟨hinit, rfl⟩, _, _, ⟨-, rfl⟩, _, s₂,
    ⟨_, _, ⟨rfl, rfl⟩, _, _, ⟨htaken, rfl⟩, _, _, ⟨-, rfl⟩, _, s₁, hjob, hrecord⟩, rfl, rfl⟩ := h
  exact ⟨hverify, hinit, by simpa using htaken, s₁, hjob, hrecord⟩

lemma sealRejected_ok {job : SealedJob} {pendingEventId pendingOccurredAt : String}
    {closeEvent : TransitionEvent} {notice : ReceiptArtifact} {submission : SubmissionMetadata}
    {limits : SubmissionLimits} {record : JobRecord}
    (h : sealRejected job pendingEventId pendingOccurredAt closeEvent notice submission limits s =
      (.ok record, s')) :
    verifyJob job = .ok () ∧ verifyReceipt notice = .ok () ∧
      closeEvent.kind = .closePending ∧ notice.kind = "terminal_notice" ∧ notice.jobId = job.jobId ∧
      closeEvent.jobId = job.jobId ∧
      ∃ pending s₁ closed s₂, initialRecord job pendingEventId pendingOccurredAt = .ok pending ∧
        Admits s s₁ job submission pending ∧
        Connection.compareAndAppend closeEvent s₁ = (.ok closed, s₂) ∧
        validateReceiptPublication notice s₂ = .ok () ∧ insertReceipt notice s₂ = (.ok (), s') := by
  unfold sealRejected at h
  simp only [Tx.bind_ok, Tx.ofExcept_ok, Tx.reads_ok, Tx.require_ok, Tx.readsOrRaise_ok,
    Tx.transaction_ok, Tx.pure_ok] at h
  obtain ⟨_, _, ⟨hverify, rfl⟩, _, _, ⟨hreceipt, rfl⟩, pending, _, ⟨hinit, rfl⟩, _, _, ⟨-, rfl⟩,
    _, _, ⟨hclose, rfl⟩, _, _, ⟨-, rfl⟩, _, _, ⟨hnotice, rfl⟩, _, s₄,
    ⟨_, _, ⟨rfl, rfl⟩, _, _, ⟨htaken, rfl⟩, _, _, ⟨-, rfl⟩, _, s₀, hjob, _, s₁, hrecord, _, s₂,
      happend, _, _, ⟨hpublish, rfl⟩, hins⟩, rfl, rfl⟩ := h
  obtain ⟨closed, hclosed⟩ := Tx.discard_ok happend
  exact ⟨hverify, hreceipt, hclose.2.2.2.1, hnotice.2.2.2.1, hnotice.1, hclose.1, pending, s₁,
    closed, _, hinit, ⟨by simpa using htaken, s₀, hjob, hrecord⟩, hclosed, hpublish, hins⟩

lemma sealWithLineageAdmission_ok {job : SealedJob} {pendingEventId pendingOccurredAt : String}
    {circuitEvent : TransitionEvent} {circuitNotice : ReceiptArtifact}
    {submission : SubmissionMetadata} {limits : SubmissionLimits}
    {failurePolicy : LineageFailurePolicy} {r : JobRecord × SubmissionAdmission}
    (h : sealWithLineageAdmission job pendingEventId pendingOccurredAt circuitEvent circuitNotice
      submission limits failurePolicy s = (.ok r, s')) :
    verifyJob job = .ok () ∧ verifyReceipt circuitNotice = .ok () ∧
      ∃ pending s₁, initialRecord job pendingEventId pendingOccurredAt = .ok pending ∧
        Admits s s₁ job submission pending ∧
        ((r.2.allowed = true ∧ r.1 = pending ∧ s' = s₁) ∨
          (r.2.allowed = false ∧ circuitEvent.kind = .closePending ∧
            circuitEvent.jobId = job.jobId ∧ circuitNotice.kind = "terminal_notice" ∧
            circuitNotice.jobId = job.jobId ∧
            ∃ s₂, Connection.compareAndAppend circuitEvent s₁ = (.ok r.1, s₂) ∧
              validateReceiptPublication circuitNotice s₂ = .ok () ∧
              insertReceipt circuitNotice s₂ = (.ok (), s'))) := by
  unfold sealWithLineageAdmission at h
  simp only [Tx.bind_ok, Tx.ofExcept_ok, Tx.reads_ok, Tx.require_ok, Tx.readsOrRaise_ok,
    Tx.transaction_ok, Tx.pure_ok, Tx.ite_ok] at h
  obtain ⟨_, _, ⟨hverify, rfl⟩, _, _, ⟨hreceipt, rfl⟩, pending, _, ⟨hinit, rfl⟩, _, _, ⟨-, rfl⟩,
    _, _, ⟨rfl, rfl⟩, _, _, ⟨htaken, rfl⟩, _, _, ⟨-, rfl⟩, summary, _, ⟨-, rfl⟩, h⟩ := h
  refine ⟨hverify, hreceipt, pending, ?_⟩
  rcases h with ⟨-, _, _, ⟨hfits, rfl⟩, _, s₀, hjob, _, s₁, hrecord, closed, s₂, happend, _, _,
    ⟨hpublish, rfl⟩, _, s₃, hins, rfl, rfl⟩ | ⟨-, _, s₀, hjob, _, s₁, hrecord, rfl, rfl⟩
  · unfold circuitNoticeFits at hfits
    refine ⟨s₁, hinit, ⟨by simpa using htaken, s₀, hjob, hrecord⟩, .inr ⟨rfl, ?_⟩⟩
    exact ⟨hfits.2.2.2.1, hfits.1, hfits.2.2.2.2.2.2.2.2.2.2.2.1, hfits.2.2.2.2.2.2.1, _, happend,
      hpublish, hins⟩
  · exact ⟨s₁, hinit, ⟨by simpa using htaken, s₀, hjob, hrecord⟩, .inl ⟨rfl, rfl, rfl⟩⟩

/-- A job that `seal_pending` takes passes the submission limits. -/
lemma sealPending_limits {job : SealedJob} {eventId occurredAt : String}
    {submission : Option SubmissionMetadata} {limits : SubmissionLimits} {record : JobRecord}
    (h : sealPending job eventId occurredAt submission limits s = (.ok record, s')) :
    enforceSubmissionLimits job (submission.getD ⟨0, 0, 0, occurredAt⟩) limits s = .ok () := by
  unfold sealPending at h
  simp only [Tx.bind_ok, Tx.ofExcept_ok, Tx.reads_ok, Tx.require_ok, Tx.readsOrRaise_ok,
    Tx.transaction_ok, Tx.pure_ok] at h
  obtain ⟨_, _, ⟨-, rfl⟩, _, _, ⟨-, rfl⟩, _, _, ⟨-, rfl⟩, _, _,
    ⟨_, _, ⟨rfl, rfl⟩, _, _, ⟨-, rfl⟩, _, _, ⟨hlimits, rfl⟩, -⟩, -⟩ := h
  exact hlimits

/-- A job that `seal_rejected` takes passes the submission limits. -/
lemma sealRejected_limits {job : SealedJob} {pendingEventId pendingOccurredAt : String}
    {closeEvent : TransitionEvent} {notice : ReceiptArtifact} {submission : SubmissionMetadata}
    {limits : SubmissionLimits} {record : JobRecord}
    (h : sealRejected job pendingEventId pendingOccurredAt closeEvent notice submission limits s =
      (.ok record, s')) : enforceSubmissionLimits job submission limits s = .ok () := by
  unfold sealRejected at h
  simp only [Tx.bind_ok, Tx.ofExcept_ok, Tx.reads_ok, Tx.require_ok, Tx.readsOrRaise_ok,
    Tx.transaction_ok, Tx.pure_ok] at h
  obtain ⟨_, _, ⟨-, rfl⟩, _, _, ⟨-, rfl⟩, _, _, ⟨-, rfl⟩, _, _, ⟨-, rfl⟩, _, _, ⟨-, rfl⟩, _, _,
    ⟨-, rfl⟩, _, _, ⟨-, rfl⟩, _, _, ⟨_, _, ⟨rfl, rfl⟩, _, _, ⟨-, rfl⟩, _, _, ⟨hlimits, rfl⟩, -⟩, -⟩ := h
  exact hlimits

/-- A job that `seal_with_lineage_admission` takes passes the submission limits. -/
lemma sealWithLineageAdmission_limits {job : SealedJob} {pendingEventId pendingOccurredAt : String}
    {circuitEvent : TransitionEvent} {circuitNotice : ReceiptArtifact}
    {submission : SubmissionMetadata} {limits : SubmissionLimits}
    {failurePolicy : LineageFailurePolicy} {r : JobRecord × SubmissionAdmission}
    (h : sealWithLineageAdmission job pendingEventId pendingOccurredAt circuitEvent circuitNotice
      submission limits failurePolicy s = (.ok r, s')) :
    enforceSubmissionLimits job submission limits s = .ok () := by
  unfold sealWithLineageAdmission at h
  simp only [Tx.bind_ok, Tx.ofExcept_ok, Tx.reads_ok, Tx.require_ok, Tx.readsOrRaise_ok,
    Tx.transaction_ok] at h
  obtain ⟨_, _, ⟨-, rfl⟩, _, _, ⟨-, rfl⟩, _, _, ⟨-, rfl⟩, _, _, ⟨-, rfl⟩, _, _, ⟨rfl, rfl⟩, _, _,
    ⟨-, rfl⟩, _, _, ⟨hlimits, rfl⟩, -⟩ := h
  exact hlimits

lemma putIfAbsent_ok {job : SealedJob} {u : Unit} (h : putIfAbsent job s = (.ok u, s')) :
    verifyJob job = .ok () ∧ insertJob job ⟨0, 0, 0, job.submittedAt⟩ s = (.ok (), s') := by
  unfold putIfAbsent at h
  simp only [Tx.bind_ok, Tx.ofExcept_ok, Tx.transaction_ok] at h
  obtain ⟨_, _, ⟨hverify, rfl⟩, hins⟩ := h
  exact ⟨hverify, hins⟩

lemma createPending_ok {record : JobRecord} {u : Unit}
    (h : createPending record s = (.ok u, s')) :
    record.Valid ∧ record.state = .pending ∧ record.revision = 0 ∧
      (∃ job, s.readSealed record.jobId = .ok job ∧ job.jobDigest = record.jobDigest) ∧
      insertRecordAndInitialLedger record s = (.ok (), s') := by
  unfold createPending at h
  simp only [Tx.bind_ok, Tx.ofExcept_ok, Tx.require_ok, Tx.readsOrRaise_ok, Tx.transaction_ok,
    validateRecord_ok] at h
  obtain ⟨_, _, ⟨hvalid, rfl⟩, _, _, ⟨⟨hpending, hrevision⟩, rfl⟩, job, _, ⟨hjob, rfl⟩, _, _,
    ⟨hdigest, rfl⟩, hins⟩ := h
  exact ⟨hvalid, hpending, hrevision, ⟨job, hjob, hdigest⟩, hins⟩

lemma putRawIfAbsent_ok {artifact : RawReceiptArtifact} {u : Unit}
    (h : putRawIfAbsent artifact s = (.ok u, s')) : insertRaw artifact s = (.ok (), s') := by
  unfold putRawIfAbsent at h
  simp only [Tx.bind_ok, Tx.ofExcept_ok, Tx.require_ok, Tx.readsOrRaise_ok, Tx.transaction_ok] at h
  obtain ⟨_, _, ⟨-, rfl⟩, _, _, ⟨-, rfl⟩, _, _, ⟨-, rfl⟩, hins⟩ := h
  exact hins

lemma publishIfAbsent_ok {artifact : ReceiptArtifact} {u : Unit}
    (h : publishIfAbsent artifact s = (.ok u, s')) : insertReceipt artifact s = (.ok (), s') := by
  unfold publishIfAbsent at h
  simp only [Tx.bind_ok, Tx.ofExcept_ok, Tx.readsOrRaise_ok, Tx.transaction_ok] at h
  obtain ⟨_, _, ⟨-, rfl⟩, _, _, ⟨-, rfl⟩, hins⟩ := h
  exact hins

lemma quarantineIfAbsent_ok {record : QuarantineRecord} {u : Unit}
    (h : quarantineIfAbsent record s = (.ok u, s')) :
    ∃ s₁ quarantine, insertReceipt record.notice s = (.ok (), s₁) ∧
      s' = { s₁ with quarantine := quarantine } := by
  unfold quarantineIfAbsent at h
  simp only [Tx.bind_ok, Tx.ofExcept_ok, Tx.reads_ok, Tx.require_ok, Tx.readsOrRaise_ok,
    Tx.transaction_ok, Tx.writes_ok, except_bind_ok, except_pure_ok] at h
  obtain ⟨_, _, ⟨-, rfl⟩, _, _, ⟨-, rfl⟩, _, _, ⟨-, rfl⟩, _, _, ⟨-, rfl⟩, _, _, ⟨-, rfl⟩, _, s₁,
    hins, quarantine, -, rfl⟩ := h
  exact ⟨s₁, quarantine, hins, rfl⟩

/-- What `publish_if_absent` checks. -/
lemma publishIfAbsent_checked {artifact : ReceiptArtifact} {u : Unit}
    (h : publishIfAbsent artifact s = (.ok u, s')) :
    verifyReceipt artifact = .ok () ∧ validateReceiptPublication artifact s = .ok () := by
  unfold publishIfAbsent at h
  simp only [Tx.bind_ok, Tx.ofExcept_ok, Tx.readsOrRaise_ok, Tx.transaction_ok] at h
  obtain ⟨_, _, ⟨hverify, rfl⟩, _, _, ⟨hpublish, rfl⟩, -⟩ := h
  exact ⟨hverify, hpublish⟩

/-- What `quarantine_if_absent` checks. -/
lemma quarantineIfAbsent_checked {record : QuarantineRecord} {u : Unit}
    (h : quarantineIfAbsent record s = (.ok u, s')) :
    record.notice.kind = "quarantined" ∧ verifyReceipt record.notice = .ok () ∧
      validateReceiptPublication record.notice s = .ok () := by
  unfold quarantineIfAbsent at h
  simp only [Tx.bind_ok, Tx.ofExcept_ok, Tx.reads_ok, Tx.require_ok, Tx.readsOrRaise_ok,
    Tx.transaction_ok] at h
  obtain ⟨_, _, ⟨hinit, rfl⟩, _, _, ⟨hverify, rfl⟩, _, _, ⟨-, rfl⟩, _, _, ⟨-, rfl⟩, _, _,
    ⟨hpublish, rfl⟩, -⟩ := h
  unfold QuarantineRecord.postInit at hinit
  simp only [except_bind_ok, require_ok, exists_const] at hinit
  exact ⟨hinit.1, hverify, hpublish⟩

/-- **What `_finalize_claimed_execution` does.** -/
lemma finalizeClaimedExecution_ok {event : TransitionEvent} {raw : RawReceiptArtifact}
    {receipt : ReceiptArtifact} {record : JobRecord} :
    finalizeClaimedExecution event raw receipt s = (.ok record, s') ↔
      verifyReceipt receipt = .ok () ∧
        (event.jobId = raw.reference.jobId ∧ event.jobDigest = raw.reference.jobDigest ∧
          receipt.jobId = raw.reference.jobId ∧ receipt.jobDigest = raw.reference.jobDigest ∧
          receipt.canonicalReceipt.get? "raw_receipt_digest" =
            some (.str raw.reference.rawReceiptDigest)) ∧
        ∃ job s₁ s₂, s.readSealed event.jobId = .ok job ∧ job.jobDigest = event.jobDigest ∧
          insertRaw raw s = (.ok (), s₁) ∧
          Connection.compareAndAppend event s₁ = (.ok record, s₂) ∧
          validateReceiptPublication receipt s₂ = .ok () ∧
          insertReceipt receipt s₂ = (.ok (), s') := by
  unfold finalizeClaimedExecution
  simp only [Tx.bind_ok, Tx.ofExcept_ok, Tx.require_ok, Tx.readsOrRaise_ok, Tx.transaction_ok,
    Tx.pure_ok]
  constructor
  · rintro ⟨_, _, ⟨hverify, rfl⟩, _, _, ⟨hmatch, rfl⟩, job, _, ⟨hjob, rfl⟩, _, _, ⟨hdigest, rfl⟩,
      _, s₁, hraw, record', s₂, happend, _, _, ⟨hpublish, rfl⟩, _, s₃, hins, rfl, rfl⟩
    exact ⟨hverify, hmatch, job, s₁, _, hjob, hdigest, hraw, happend, hpublish, hins⟩
  · rintro ⟨hverify, hmatch, job, s₁, s₂, hjob, hdigest, hraw, happend, hpublish, hins⟩
    exact ⟨(), s, ⟨hverify, rfl⟩, (), s, ⟨hmatch, rfl⟩, job, s, ⟨hjob, rfl⟩, (), s, ⟨hdigest, rfl⟩,
      (), s₁, hraw, record, s₂, happend, (), s₂, ⟨hpublish, rfl⟩, (), s', hins, rfl, rfl⟩

lemma completeClaimedExecution_ok {event : TransitionEvent} {raw : RawReceiptArtifact}
    {receipt : ReceiptArtifact} {record : JobRecord} :
    completeClaimedExecution event raw receipt s = (.ok record, s') ↔
      raw.postInit = .ok () ∧ event.kind = .completeExecution ∧
        finalizeClaimedExecution event raw receipt s = (.ok record, s') := by
  unfold completeClaimedExecution
  simp only [Tx.bind_ok, Tx.ofExcept_ok, Tx.require_ok]
  constructor
  · rintro ⟨_, _, ⟨hraw, rfl⟩, _, _, ⟨hkind, rfl⟩, hfinal⟩
    exact ⟨hraw, hkind, hfinal⟩
  · rintro ⟨hraw, hkind, hfinal⟩
    exact ⟨(), s, ⟨hraw, rfl⟩, (), s, ⟨hkind, rfl⟩, hfinal⟩

lemma markClaimedExecutionUnknown_ok {event : TransitionEvent} {raw : RawReceiptArtifact}
    {receipt : ReceiptArtifact} {record : JobRecord} :
    markClaimedExecutionUnknown event raw receipt s = (.ok record, s') ↔
      raw.postInit = .ok () ∧ event.kind = .markUnknown ∧
        finalizeClaimedExecution event raw receipt s = (.ok record, s') := by
  unfold markClaimedExecutionUnknown
  simp only [Tx.bind_ok, Tx.ofExcept_ok, Tx.require_ok]
  constructor
  · rintro ⟨_, _, ⟨hraw, rfl⟩, _, _, ⟨hkind, rfl⟩, hfinal⟩
    exact ⟨hraw, hkind, hfinal⟩
  · rintro ⟨hraw, hkind, hfinal⟩
    exact ⟨(), s, ⟨hraw, rfl⟩, (), s, ⟨hkind, rfl⟩, hfinal⟩

end Store

end AgentRuntimeOps.RootActions
