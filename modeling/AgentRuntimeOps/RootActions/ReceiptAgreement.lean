import AgentRuntimeOps.RootActions.Settling

/-!
# Receipts and the records they are published for

Two validators look at a receipt.  `_validate_receipt_publication` decides whether the store takes
it, and `status_projection` whether a reader can show it next to the record of its job.  They were
written separately, and they differ in one place: in the state `UNKNOWN` publication does not
compare the reason of the receipt with the reason of the record.

The store does not keep in which state of its job a receipt was inserted, so the transition system
here carries that next to the store (`Publications`).  `receipts_agree` says that a job that was
given a receipt in the state it is in can be projected with its current receipt, in every run whose
unknown receipts name the reason of their record.
-/

set_option linter.unusedSectionVars false

namespace AgentRuntimeOps.RootActions

open AgentRuntimeOps.Lib Connection

variable [UnicodeData]

/-! ## Runs with the publications on the way -/

/-- A store with the receipts inserted so far: the job of each and the state of the job then. -/
structure Publications where
  store : Store
  given : List (String × JobState)

/-- Before the first call. -/
def Publications.initial : Publications := ⟨Store.empty, []⟩

/-- The receipts that a call inserts. -/
def StoreWrite.gives (w : StoreWrite) (s : Store) : List (String × JobState) :=
  ((w.after s).receipts.rows.drop s.receipts.rows.length).filterMap fun row =>
    ((w.after s).records.find? row.jobId).map fun record => (row.jobId, record.state)

/-- Any method with any arguments, at any time. -/
def publishStep (w : StoreWrite) (e : Publications) : Option Publications :=
  some ⟨w.after e.store, e.given ++ w.gives e.store⟩

lemma publishStep_ok {w : StoreWrite} {e : Publications} {r : w.Res} {s' : Store}
    (h : w.run e.store = (.ok r, s')) :
    publishStep w e = some ⟨s', e.given ++ w.gives e.store⟩ := by
  unfold publishStep
  rw [StoreWrite.after_of_ok h]

/-- A job that was given a receipt in the state it is in is projected with its current receipt. -/
def Publications.Agrees (e : Publications) : Prop :=
  ∀ record ∈ e.store.records.rows, record.state = .unknown ∨ record.state = .terminal →
    (record.jobId, record.state) ∈ e.given →
    ∃ job receipt status, e.store.readSealed record.jobId = .ok job ∧
      e.store.retrieve job.jobId job.jobDigest = .ok receipt ∧
      statusProjection job record (some receipt) none = .ok status ∧
      (record.state = .unknown ↔ receipt.kind = "unknown") ∧
      receipt.canonicalReceipt.field "terminal_outcome" =
        .ofOption (record.terminalOutcome.map (·.value)) ∧
      (receipt.kind = "unknown" ∨ receipt.kind = "terminal_notice" →
        receipt.canonicalReceipt.field "reason_code" = .ofOption record.reasonCode)

/-- A receipt for a job in the state `UNKNOWN` names the reason of its record. -/
def StoreWrite.Reasoned (s : Store) : StoreWrite → Prop
  | .markClaimedExecutionUnknown event _ receipt =>
      receipt.canonicalReceipt.field "reason_code" = .ofOption event.reasonCode
  | .publishIfAbsent artifact => ∀ record, s.records.find? artifact.jobId = some record →
      record.state = .unknown →
        artifact.canonicalReceipt.field "reason_code" = .ofOption record.reasonCode
  | _ => True

/-! ## What a call publishes -/

/-- The receipts are the same in two stores, of which the second is later. -/
structure SameReceipts (s s' : Store) : Prop where
  later : s.Extends s'
  receipts : s'.receipts = s.receipts
  pointers : s'.receiptCurrent = s.receiptCurrent

/-- A receipt is published: it passes the checks, and is inserted. -/
structure PublishesAt (s s' : Store) (artifact : ReceiptArtifact) : Prop where
  verified : verifyReceipt artifact = .ok ()
  checked : validateReceiptPublication artifact s = .ok ()
  inserted : ∃ s₁, insertReceipt artifact s = (.ok (), s₁) ∧ s'.jobs = s₁.jobs ∧
    s'.records = s₁.records ∧ s'.receipts = s₁.receipts ∧ s'.receiptCurrent = s₁.receiptCurrent
  reason : ∀ record, s.records.find? artifact.jobId = some record → record.state = .unknown →
    artifact.canonicalReceipt.field "reason_code" = .ofOption record.reasonCode

/-- A call leaves the receipts alone, or publishes one after it moved the record. -/
inductive Publishing (s s' : Store) : Prop where
  | none (h : SameReceipts s s')
  | one {s₁ : Store} {artifact : ReceiptArtifact} (hsame : SameReceipts s s₁)
      (hpublish : PublishesAt s₁ s' artifact)

section publishing

variable {s s₁ s' : Store}

lemma SameReceipts.admits {job : SealedJob} {submission : SubmissionMetadata}
    {pending : JobRecord} {eventId occurredAt : String}
    (hinit : initialRecord job eventId occurredAt = .ok pending)
    (h : Store.Admits s s' job submission pending) : SameReceipts s s' := by
  refine ⟨Store.Extends.admits hinit h, ?_, ?_⟩ <;>
  · obtain ⟨rfl, -⟩ := initialRecord_ok.mp hinit
    obtain ⟨-, s₀, hjob, hrecord⟩ := h
    obtain ⟨jobs, -, -, rfl⟩ := insertJob_ok.mp hjob
    obtain ⟨records, -, -, -, rfl⟩ := (insertRecordAndInitialLedger_ok ⟨rfl, rfl⟩).mp hrecord
    rfl

lemma SameReceipts.compareAndAppend {event : TransitionEvent} {updated : JobRecord}
    (h : Connection.compareAndAppend event s = (.ok updated, s')) : SameReceipts s s' := by
  refine ⟨Store.Extends.compareAndAppend h, ?_, ?_⟩ <;>
  · obtain ⟨current, -, -, -, -, rfl⟩ := compareAndAppend_ok.mp h
    rfl

lemma SameReceipts.insertRaw {raw : RawReceiptArtifact}
    (h : Connection.insertRaw raw s = (.ok (), s')) : SameReceipts s s' := by
  refine ⟨Store.Extends.insertRaw h, ?_, ?_⟩ <;>
  · obtain ⟨rawReceipts, -, -, rfl⟩ := insertRaw_ok.mp h
    rfl

lemma SameReceipts.trans (h : SameReceipts s s₁) (h' : SameReceipts s₁ s') : SameReceipts s s' :=
  ⟨h.later.trans h'.later, h'.receipts.trans h.receipts, h'.pointers.trans h.pointers⟩

/-- A job closed before it ran has a record in the state `TERMINAL`. -/
lemma PublishesAt.of_close {event : TransitionEvent} {closed : JobRecord} {notice : ReceiptArtifact}
    (hkind : event.kind = .closePending) (hjob : notice.jobId = event.jobId)
    (happend : Connection.compareAndAppend event s = (.ok closed, s₁))
    (hverify : verifyReceipt notice = .ok ())
    (hcheck : validateReceiptPublication notice s₁ = .ok ())
    (hins : insertReceipt notice s₁ = (.ok (), s')) : PublishesAt s₁ s' notice := by
  refine ⟨hverify, hcheck, ⟨s', hins, rfl, rfl, rfl, rfl⟩, ?_⟩
  intro record hrecord hunknown
  have hfind := find?_of_compareAndAppend happend event.jobId
  rw [if_pos rfl, ← hjob, hrecord] at hfind
  cases hfind
  obtain ⟨current, -, happly, -⟩ := compareAndAppend_ok.mp happend
  obtain ⟨-, hmoves, -⟩ := applyTransition_ok.mp happly
  cases hmoves with
  | close _ _ _ _ _ _ _ hres => rw [hres] at hunknown; cases hunknown
  | claim hk | complete hk | mark hk | reconcile hk => rw [hkind] at hk; cases hk

/-- The end of an execution publishes its receipt. -/
lemma Publishing.of_finalize {event : TransitionEvent} {raw : RawReceiptArtifact}
    {receipt : ReceiptArtifact} {record : JobRecord}
    (h : Store.finalizeClaimedExecution event raw receipt s = (.ok record, s'))
    (hreason : event.kind = .completeExecution ∨
      event.kind = .markUnknown ∧
        receipt.canonicalReceipt.field "reason_code" = .ofOption event.reasonCode) :
    Publishing s s' := by
  obtain ⟨hverify, ⟨hjob, -, hjob', -⟩, job, s₁, s₂, -, -, hraw, happend, hcheck, hins⟩ :=
    Store.finalizeClaimedExecution_ok.mp h
  have hsame : SameReceipts s s₂ :=
    (SameReceipts.insertRaw hraw).trans (.compareAndAppend happend)
  refine .one hsame ⟨hverify, hcheck, ⟨s', hins, rfl, rfl, rfl, rfl⟩, ?_⟩
  intro updated hupdated hunknown
  have hfind := find?_of_compareAndAppend happend event.jobId
  rw [if_pos rfl, hjob, ← hjob', hupdated] at hfind
  cases hfind
  obtain ⟨current, -, happly, -⟩ := compareAndAppend_ok.mp happend
  obtain ⟨-, hmoves, -⟩ := applyTransition_ok.mp happly
  cases hmoves with
  | mark hk _ _ _ reason heq hres =>
      rcases hreason with hcomplete | ⟨-, hfield⟩
      · rw [hk] at hcomplete
        cases hcomplete
      · rw [hfield, heq, hres]
        rfl
  | complete _ _ _ _ _ _ _ _ hres => rw [hres] at hunknown; cases hunknown
  | claim hk | close hk | reconcile hk =>
      rcases hreason with hk' | ⟨hk', -⟩
      · rw [hk] at hk'
        cases hk'
      · rw [hk] at hk'
        cases hk'

/-- **What a successful call does to the receipts.** -/
theorem publishing_run (w : StoreWrite) (r : w.Res) (hreasoned : w.Reasoned s)
    (hrun : w.run s = (.ok r, s')) : Publishing s s' := by
  have hext := extends_run w s r s' hrun
  cases w with
  | putIfAbsent job =>
      obtain ⟨jobs, -, -, rfl⟩ := insertJob_ok.mp (Store.putIfAbsent_ok hrun).2
      exact .none ⟨hext, rfl, rfl⟩
  | createPending record =>
      obtain ⟨hvalid, hpending, -, -, hins⟩ := Store.createPending_ok hrun
      obtain ⟨-, houtcome, hreason⟩ := hvalid.pending hpending
      obtain ⟨records, -, -, -, rfl⟩ :=
        (insertRecordAndInitialLedger_ok ⟨houtcome, hreason⟩).mp hins
      exact .none ⟨hext, rfl, rfl⟩
  | sealPending job eventId occurredAt submission limits =>
      obtain ⟨-, hinit, hadmits⟩ := Store.sealPending_ok hrun
      exact .none (.admits hinit hadmits)
  | sealRejected job pendingEventId pendingOccurredAt closeEvent notice submission limits =>
      obtain ⟨-, hverify, hkind, -, hnotice, hevent, pending, s₁, closed, s₂, hinit, hadmits, happend,
        hcheck, hins⟩ := Store.sealRejected_ok hrun
      have hsame := (SameReceipts.admits hinit hadmits).trans (.compareAndAppend happend)
      exact .one hsame
        (.of_close hkind (hnotice.trans hevent.symm) happend hverify hcheck hins)
  | sealWithLineageAdmission job pendingEventId pendingOccurredAt circuitEvent circuitNotice
      submission limits failurePolicy =>
      obtain ⟨-, hverify, pending, s₁, hinit, hadmits, hcases⟩ :=
        Store.sealWithLineageAdmission_ok hrun
      rcases hcases with ⟨-, -, rfl⟩ | ⟨-, hkind, hevent, -, hnotice, s₂, happend, hcheck, hins⟩
      · exact .none (.admits hinit hadmits)
      · have hsame := (SameReceipts.admits hinit hadmits).trans (.compareAndAppend happend)
        exact .one hsame
          (.of_close hkind (hnotice.trans hevent.symm) happend hverify hcheck hins)
  | compareAndAppend event => exact .none (.compareAndAppend (Tx.transaction_ok.mp hrun))
  | putRawIfAbsent artifact => exact .none (.insertRaw (Store.putRawIfAbsent_ok hrun))
  | completeClaimedExecution event raw receipt =>
      obtain ⟨-, hkind, hfinal⟩ := Store.completeClaimedExecution_ok.mp hrun
      exact .of_finalize hfinal (.inl hkind)
  | markClaimedExecutionUnknown event raw receipt =>
      obtain ⟨-, hkind, hfinal⟩ := Store.markClaimedExecutionUnknown_ok.mp hrun
      exact .of_finalize hfinal (.inr ⟨hkind, hreasoned⟩)
  | publishIfAbsent artifact =>
      obtain ⟨hverify, hcheck⟩ := Store.publishIfAbsent_checked hrun
      have hins := Store.publishIfAbsent_ok hrun
      exact .one ⟨.refl s, rfl, rfl⟩ ⟨hverify, hcheck, ⟨s', hins, rfl, rfl, rfl, rfl⟩, hreasoned⟩
  | quarantineIfAbsent record =>
      obtain ⟨hkind, hverify, hcheck⟩ := Store.quarantineIfAbsent_checked hrun
      obtain ⟨s₁, quarantine, hins, rfl⟩ := Store.quarantineIfAbsent_ok hrun
      refine .one ⟨.refl s, rfl, rfl⟩ ⟨hverify, hcheck, ⟨s₁, hins, rfl, rfl, rfl, rfl⟩, ?_⟩
      intro stored hstored hunknown
      obtain ⟨-, stored', -, hstored', -, -, -, hkinds, -⟩ := validateReceiptPublication_ok hcheck
      rw [hstored] at hstored'
      cases hstored'
      rw [hkinds hunknown] at hkind
      exact absurd hkind (by decide)
  | createAuthBootstrap session =>
      obtain ⟨-, -, _, bootstraps, -, -, rfl⟩ := Store.createAuthBootstrap_ok hrun
      exact .none ⟨hext, rfl, rfl⟩
  | issueRegistrationCeremony tokenDigest ceremony =>
      obtain ⟨ceremonies, -, -, rfl⟩ :=
        insertCeremony_ok.mp (Store.issueRegistrationCeremony_ok hrun).2
      exact .none ⟨hext, rfl, rfl⟩
  | completeRegistration tokenDigest ceremonyId credential consumedAt =>
      obtain ⟨-, ceremony, bootstrap, s₁, s₂, -, -, -, -, -, -, -, hins, rfl, rfl⟩ :=
        Store.completeRegistration_ok hrun
      obtain ⟨credentials, -, -, rfl⟩ := insertCredential_ok.mp hins
      exact .none ⟨hext, rfl, rfl⟩
  | issueApprovalCeremony ceremony =>
      obtain ⟨-, -, -, -, hins⟩ := Store.issueApprovalCeremony_ok hrun
      obtain ⟨ceremonies, -, -, rfl⟩ := insertCeremony_ok.mp hins
      exact .none ⟨hext, rfl, rfl⟩
  | claimWithApproval ceremony credential verified approval claimEvent =>
      obtain ⟨hcontract, -, -, -, s₁, s₂, s₃, rfl, rfl, hins, happend⟩ :=
        Store.claimWithApproval_ok hrun
      obtain ⟨approvals, -, -, rfl⟩ := (insertApproval_ok hcontract.userVerified).mp hins
      obtain ⟨current, -, -, -, -, rfl⟩ := compareAndAppend_ok.mp happend
      exact .none ⟨hext, rfl, rfl⟩

end publishing

/-! ## The invariant -/

/-- The current receipt of a job: it was published for the final state that the job is in, or for
the state `UNKNOWN` that the job has left since. -/
def Presents (s : Store) (jobId : String) (row : ReceiptRow) : Prop :=
  ∃ artifact jobRow record, row = receiptRow artifact ∧ s.jobs.find? jobId = some jobRow ∧
    s.records.find? jobId = some record ∧ (record.state = .unknown ∨ record.state = .terminal) ∧
    (artifact.kind ≠ "unknown" → record.state = .terminal) ∧
    (record.state = .unknown ∨ artifact.kind ≠ "unknown" →
      ReceiptFits jobRow.job record artifact)

/-- No pointer dangles. -/
def Store.Pointed (s : Store) : Prop :=
  ∀ jobId pointer, s.receiptCurrent.find? jobId = some pointer →
    ∃ row, s.receipts.find? pointer.receiptDigest = some row

/-- **The invariant of the publications.** -/
structure AgreeInv (e : Publications) : Prop where
  pointed : e.store.Pointed
  current : ∀ jobId row, e.store.currentReceipt? jobId = some row → Presents e.store jobId row
  given : ∀ p ∈ e.given, ∃ row, e.store.currentReceipt? p.1 = some row ∧
    (p.2 = .terminal → row.kind ≠ "unknown")

/-- A record that is still in the state `UNKNOWN` is the same record. -/
lemma JobRecord.Follows.eq_of_unknown {r r' : JobRecord} (h : r.Follows r')
    (hr : r.state = .unknown) : r' = r ∨ r'.state = .terminal := by
  refine h.preserves (P := fun x => x = r ∨ x.state = .terminal) ?_ (.inl rfl)
  rintro a b event (rfl | hterminal) happly
  · obtain ⟨-, hmoves, -⟩ := applyTransition_ok.mp happly
    cases hmoves with
    | reconcile _ _ _ _ _ _ _ _ hres => rw [hres]; exact .inr rfl
    | claim _ hsource | close _ hsource | complete _ hsource | mark _ hsource =>
        rw [hr] at hsource
        cases hsource
  · rw [(JobRecord.Follows.single happly).eq_of_terminal hterminal]
    exact .inr hterminal

lemma Presents.later {s s' : Store} {jobId : String} {row : ReceiptRow} (h : Presents s jobId row)
    (hext : s.Extends s') : Presents s' jobId row := by
  obtain ⟨artifact, jobRow, record, rfl, hjob, hrecord, hfinal, hkind, hfits⟩ := h
  obtain ⟨record', hrecord', hfollows⟩ := hext.records jobId record hrecord
  refine ⟨artifact, jobRow, record', rfl, hext.jobs jobId jobRow hjob, hrecord', ?_⟩
  rcases hfinal with hunknown | hterminal
  · rcases hfollows.eq_of_unknown hunknown with rfl | hmoved
    · exact ⟨.inl hunknown, hkind, hfits⟩
    · refine ⟨.inr hmoved, fun _ => hmoved, ?_⟩
      rintro (hstill | hother)
      · rw [hmoved] at hstill
        cases hstill
      · rw [hkind hother] at hunknown
        cases hunknown
  · obtain rfl := hfollows.eq_of_terminal hterminal
    exact ⟨.inr hterminal, hkind, hfits⟩

section pointers

variable {s s' : Store} {artifact : ReceiptArtifact}

/-- The pointers after a publication. -/
lemma find?_of_pointerMoves {pointers : Table ReceiptPointer String (fun row => row.jobId)}
    (h : PointerMoves s artifact pointers) (jobId : String) :
    pointers.find? jobId = if jobId = artifact.jobId then
      some ⟨artifact.jobId, artifact.receiptDigest⟩ else s.receiptCurrent.find? jobId := by
  rcases h with ⟨-, hins⟩ | ⟨hsome, -, rfl⟩
  · rw [Table.find?_insert? hins]
    by_cases hjob : jobId = artifact.jobId
    · rw [if_pos hjob, if_pos hjob.symm]
    · rw [if_neg hjob, if_neg (Ne.symm hjob)]
  · rw [Table.find?_updateWhere]
    by_cases hjob : jobId = artifact.jobId
    · subst hjob
      cases hfind : s.receiptCurrent.find? artifact.jobId with
      | none =>
          unfold Store.currentReceipt? at hsome
          rw [hfind] at hsome
          exact absurd rfl hsome
      | some pointer =>
          have hkey : pointer.jobId = artifact.jobId := Table.key_of_find? hfind
          rw [if_pos rfl, Option.map_some, if_pos (decide_eq_true hkey), assignPointer, hkey]
    · rw [if_neg hjob]
      cases hfind : s.receiptCurrent.find? jobId with
      | none => rfl
      | some pointer =>
          have hkey : pointer.jobId = jobId := Table.key_of_find? hfind
          rw [Option.map_some, if_neg]
          rw [decide_eq_true_eq, hkey]
          exact hjob

/-- The current receipts after a publication. -/
lemma currentReceipt?_of_publication (hpointed : s.Pointed)
    (h : insertReceipt artifact s = (.ok (), s')) (jobId : String) :
    s'.currentReceipt? jobId = if jobId = artifact.jobId then some (receiptRow artifact)
      else s.currentReceipt? jobId := by
  obtain ⟨receipts, pointers, -, hins, hmoves, rfl⟩ := insertReceipt_ok.mp h
  change (pointers.find? jobId).bind (fun pointer => receipts.find? pointer.receiptDigest) = _
  rw [find?_of_pointerMoves hmoves]
  split_ifs with hjob
  · exact (Table.find?_insert? hins _).trans (if_pos rfl)
  · change _ = (s.receiptCurrent.find? jobId).bind _
    cases hfind : s.receiptCurrent.find? jobId with
    | none => rfl
    | some pointer =>
        obtain ⟨row, hrow⟩ := hpointed jobId pointer hfind
        change receipts.find? pointer.receiptDigest = s.receipts.find? pointer.receiptDigest
        rw [hrow]
        exact Store.Extends.find?_of_insert? hins hrow

/-- A publication leaves no pointer dangling. -/
lemma Store.Pointed.insertReceipt (hpointed : s.Pointed)
    (h : Connection.insertReceipt artifact s = (.ok (), s')) : s'.Pointed := by
  obtain ⟨receipts, pointers, -, hins, hmoves, rfl⟩ := insertReceipt_ok.mp h
  intro jobId pointer hpointer
  change pointers.find? jobId = some pointer at hpointer
  change ∃ row, receipts.find? _ = some row
  rw [find?_of_pointerMoves hmoves] at hpointer
  split_ifs at hpointer with hsame
  · cases hpointer
    exact ⟨receiptRow artifact, (Table.find?_insert? hins _).trans (if_pos rfl)⟩
  · obtain ⟨row, hrow⟩ := hpointed jobId pointer hpointer
    exact ⟨row, Store.Extends.find?_of_insert? hins hrow⟩

/-- It looks at two tables only. -/
lemma Store.Pointed.of_tables (hpointed : s.Pointed) (hreceipts : s'.receipts = s.receipts)
    (hpointers : s'.receiptCurrent = s.receiptCurrent) : s'.Pointed := by
  unfold Store.Pointed
  rw [hreceipts, hpointers]
  exact hpointed

end pointers

namespace AgreeInv

variable {e : Publications} {s' : Store}

lemma initial : AgreeInv Publications.initial := by
  refine ⟨?_, ?_, ?_⟩
  · intro jobId pointer hpointer
    cases hpointer
  · intro jobId row hrow
    cases hrow
  · intro p hp
    cases hp

/-- A call that leaves the receipts alone. -/
lemma of_sameReceipts (h : AgreeInv e) (hsame : SameReceipts e.store s') :
    AgreeInv ⟨s', e.given⟩ := by
  have hcurrent : ∀ jobId, s'.currentReceipt? jobId = e.store.currentReceipt? jobId := by
    intro jobId
    unfold Store.currentReceipt?
    rw [hsame.receipts, hsame.pointers]
  refine ⟨?_, ?_, ?_⟩
  · exact h.pointed.of_tables hsame.receipts hsame.pointers
  · intro jobId row hrow
    rw [hcurrent] at hrow
    exact (h.current jobId row hrow).later hsame.later
  · intro p hp
    obtain ⟨row, hrow, hkind⟩ := h.given p hp
    exact ⟨row, (hcurrent p.1).trans hrow, hkind⟩

/-- The records that publication looks at are valid. -/
lemma valid_of_publication {s : Store} {artifact : ReceiptArtifact} {record : JobRecord}
    (h : validateReceiptPublication artifact s = .ok ())
    (hrecord : s.records.find? artifact.jobId = some record) : record.Valid := by
  unfold validateReceiptPublication at h
  simp only [except_bind_ok] at h
  obtain ⟨-, -, stored, hread, -⟩ := h
  obtain ⟨hstored, hvalid⟩ := readRecord_ok.mp hread
  rw [hrecord] at hstored
  cases hstored
  exact hvalid

/-- A call that publishes a receipt. -/
lemma of_publishesAt (h : AgreeInv e) {artifact : ReceiptArtifact}
    (hpublish : PublishesAt e.store s' artifact) :
    ∃ record, s'.records.find? artifact.jobId = some record ∧
      s'.receipts.rows = e.store.receipts.rows ++ [receiptRow artifact] ∧
      AgreeInv ⟨s', e.given ++ [(artifact.jobId, record.state)]⟩ := by
  obtain ⟨hverify, hcheck, ⟨s₁, hins, hjobs, hrecords, hreceipts, hpointers⟩, hreason⟩ := hpublish
  obtain ⟨jobRow, record, hjob, hrecord, hstates, hfits, -⟩ :=
    receiptFits_of_publication hverify hcheck hreason fun r hr => valid_of_publication hcheck hr
  have hcurrent₁ := currentReceipt?_of_publication h.pointed hins
  have hcurrent : ∀ jobId, s'.currentReceipt? jobId =
      if jobId = artifact.jobId then some (receiptRow artifact)
      else e.store.currentReceipt? jobId := by
    intro jobId
    rw [← hcurrent₁]
    unfold Store.currentReceipt?
    rw [hreceipts, hpointers]
  obtain ⟨receipts, pointers, hreplaces, hinsert, hmoves, rfl⟩ := insertReceipt_ok.mp hins
  have hstored : s'.records.find? artifact.jobId = some record := by
    rw [hrecords]
    exact hrecord
  refine ⟨record, hstored, ?_, ?_, ?_, ?_⟩
  · rw [hreceipts]
    exact Table.rows_insert? hinsert
  · exact (h.pointed.insertReceipt hins).of_tables hreceipts hpointers
  · intro jobId row hrow
    change s'.currentReceipt? jobId = some row at hrow
    rw [hcurrent] at hrow
    split_ifs at hrow with hsame
    · cases hrow
      subst hsame
      refine ⟨artifact, jobRow, record, rfl, ?_, hstored, hstates, ?_, fun _ => hfits⟩
      · change s'.jobs.find? _ = _
        rw [hjobs]
        exact hjob
      · intro hkind
        rcases hstates with hunknown | hterminal
        · exact absurd (hfits.unknown hunknown) hkind
        · exact hterminal
    · obtain ⟨artifact', jobRow', record', heq, hjob', hrecord', hrest⟩ := h.current jobId row hrow
      refine ⟨artifact', jobRow', record', heq, ?_, ?_, hrest⟩
      · change s'.jobs.find? _ = _
        rw [hjobs]
        exact hjob'
      · change s'.records.find? _ = _
        rw [hrecords]
        exact hrecord'
  · intro p hp
    change ∃ row, s'.currentReceipt? p.1 = some row ∧ _
    rw [hcurrent]
    rcases List.mem_append.mp hp with hold | hnew
    · obtain ⟨row, hrow, hkind⟩ := h.given p hold
      split_ifs with hsame
      · refine ⟨receiptRow artifact, rfl, fun _ => ?_⟩
        rw [hsame] at hrow
        exact (hreplaces row hrow).2
      · exact ⟨row, hrow, hkind⟩
    · rw [List.mem_singleton.mp hnew, if_pos rfl]
      exact ⟨receiptRow artifact, rfl, hfits.terminal⟩

/-- **One call.** -/
lemma run (h : AgreeInv e) (w : StoreWrite) (r : w.Res) (hreasoned : w.Reasoned e.store)
    (hrun : w.run e.store = (.ok r, s')) : AgreeInv ⟨s', e.given ++ w.gives e.store⟩ := by
  have hafter := StoreWrite.after_of_ok hrun
  cases publishing_run w r hreasoned hrun with
  | none hsame =>
      have hnone : w.gives e.store = [] := by
        unfold StoreWrite.gives
        rw [hafter, hsame.receipts, List.drop_length]
        rfl
      rw [hnone, List.append_nil]
      exact h.of_sameReceipts hsame
  | @one s₁ artifact hsame hpublish =>
      obtain ⟨record, hrecord, hrows, hinv⟩ := (h.of_sameReceipts hsame).of_publishesAt hpublish
      have hone : w.gives e.store = [(artifact.jobId, record.state)] := by
        unfold StoreWrite.gives
        rw [hafter, hrows, hsame.receipts, List.drop_left]
        simp only [receiptRow, List.filterMap_cons, List.filterMap_nil, hrecord, Option.map_some]
      rw [hone]
      exact hinv

theorem of_reaches (h : Reaches publishStep (fun e w => w.Reasoned e.store) Publications.initial e) :
    AgreeInv e := by
  refine h.invariant initial ?_
  intro a b w ha hreasoned hw
  obtain rfl : (⟨w.after a.store, a.given ++ w.gives a.store⟩ : Publications) = b :=
    Option.some.inj hw
  rcases w.after_cases a.store with hsame | ⟨r, hr⟩
  · have hnone : w.gives a.store = [] := by
      unfold StoreWrite.gives
      rw [hsame, List.drop_length]
      rfl
    rw [hsame, hnone, List.append_nil]
    exact ha
  · exact ha.run w r hreasoned hr

end AgreeInv

/-! ## Agreement -/

/-- The stores of such runs are reachable. -/
lemma Publications.reachable {ok : Publications → StoreWrite → Prop} {e : Publications}
    (h : Reaches publishStep ok Publications.initial e) : Reachable e.store := by
  induction h with
  | refl => exact .refl
  | tail _ _ hw ih =>
      cases Option.some.inj hw
      exact ih.tail trivial rfl

/-- **Receipts agree with their records.**  In every run in which a receipt for a job in the state
`UNKNOWN` names the reason of its record, a job that was given a receipt in the state it is in is
projected with its current receipt: its kind fits the state, its outcome is the one of the record,
and so is the reason of an unknown receipt or a notice. -/
theorem receipts_agree {e : Publications}
    (h : Reaches publishStep (fun e w => w.Reasoned e.store) Publications.initial e) :
    e.Agrees := by
  have hinv := AgreeInv.of_reaches h
  have hledger := LedgerInv.of_reachable (Publications.reachable h)
  intro record hrecord hstates hgiven
  have hvalid : record.Valid := (hledger.chain record hrecord).valid
  obtain ⟨row, hrow, hkind⟩ := hinv.given _ hgiven
  obtain ⟨artifact, jobRow, record', rfl, hjob, hrecord', -, hterminal, hfits⟩ :=
    hinv.current _ row hrow
  rw [Table.find?_of_mem hrecord] at hrecord'
  cases hrecord'
  have hfits' : ReceiptFits jobRow.job record artifact := by
    apply hfits
    rcases hstates with hunknown | hfinal
    · exact .inl hunknown
    · exact .inr (hkind hfinal)
  obtain ⟨row', hrow', hdigest⟩ := hledger.sealed record hrecord
  rw [hjob] at hrow'
  cases hrow'
  have hid : jobRow.job.jobId = record.jobId := by
    have hkey := Table.key_of_find? hjob
    exact hkey
  have hverify := hledger.verified jobRow (Table.mem_of_find? hjob)
  have hretrieve : e.store.retrieve jobRow.job.jobId jobRow.job.jobDigest = .ok artifact := by
    rw [hid]
    exact retrieve_of_current hrow hfits'
  refine ⟨jobRow.job, artifact, _, readSealed_ok.mpr ⟨jobRow, hjob, hverify, rfl⟩, hretrieve,
    statusProjection_ok hvalid hid.symm hdigest.symm ?_, ?_, hfits'.outcome, hfits'.reason⟩
  · intro artifact' hartifact
    cases hartifact
    refine ⟨?_, hfits'⟩
    rcases hstates with hunknown | hfinal
    · rw [hunknown]; rfl
    · rw [hfinal]; rfl
  · constructor
    · exact hfits'.unknown
    · intro hunknown
      rcases hstates with hstate | hstate
      · exact hstate
      · exact absurd hunknown (hfits'.terminal hstate)

/-! ## A job marked as unknown -/

/-- A retrieved receipt is one of the rows. -/
lemma mem_of_retrieve {s : Store} {jobId jobDigest : String} {receipt : ReceiptArtifact}
    (h : s.retrieve jobId jobDigest = .ok receipt) :
    ∃ row ∈ s.receipts.rows, receipt.canonicalReceipt = row.canonicalReceipt := by
  unfold Store.retrieve at h
  simp only [except_bind_ok, orRaise_ok, require_ok, exists_const, except_pure_ok] at h
  obtain ⟨row, hrow, artifact, hseal, -, -, -, rfl⟩ := h
  obtain ⟨hcurrent, -⟩ := Option.filter_eq_some_iff.mp hrow
  obtain ⟨pointer, -, hfound⟩ := Option.bind_eq_some_iff.mp hcurrent
  exact ⟨row, Table.mem_of_find? hfound, canonicalReceipt_of_seal hseal⟩

omit [UnicodeData] in
/-- The sample job is sealed, claimed and then marked as unknown; the receipt says that the handler
timed out, whatever the reason of the event is. -/
lemma marked_sample {ok : Publications → StoreWrite → Prop} {recordReason : String}
    (hsafe : isSafeId recordReason = true)
    (hseal : ok Publications.initial sampleSeal) (hclaim : ∀ e, ok e sampleClaim) :
    let _ := UnicodeData.asciiOnly
    ∃ (e e' : Publications) (event : TransitionEvent) (raw : RawReceiptArtifact)
      (receipt : ReceiptArtifact), Reaches publishStep ok Publications.initial e ∧
      publishStep (.markClaimedExecutionUnknown event raw receipt) e = some e' ∧
      event.reasonCode = some recordReason ∧
      receipt.canonicalReceipt.field "reason_code" = .str "handler_timed_out" ∧
      e'.store.receipts.rows = [receiptRow receipt] ∧
      ∃ record ∈ e'.store.records.rows, record.state = .unknown ∧
        record.reasonCode = some recordReason ∧ (record.jobId, record.state) ∈ e'.given := by
  intro _
  obtain ⟨s₁, hrun₁, hholds⟩ := sealed_sample
  have hsystem : ReachableBy (fun c => c.isSystem = true) s₁ :=
    Reaches.tail .refl rfl (congrArg some (StoreWrite.after_of_ok hrun₁))
  obtain ⟨hrun₂, hclaimed⟩ := claimed_sample (SystemInv.of_reachable hsystem) hholds
  have hsystem₂ : ReachableBy (fun c => c.isSystem = true) (sampleClaim.after s₁) :=
    hsystem.tail rfl rfl
  have hnote : (failureNote "TimeoutError" "handler_timed_out").length ≤ maxRawReceiptBytes := by
    decide
  obtain ⟨sealed, s₃, hsealed, -, hmark⟩ := mark_ok_of_reasons (SystemInv.of_reachable hsystem₂)
    hclaimed.known rfl (by decide) hsafe (markable_sample hclaimed hnote)
  -- The run, with what it gives on the way.
  obtain ⟨given₁, hreach₁⟩ : ∃ given, Reaches publishStep ok Publications.initial ⟨s₁, given⟩ :=
    ⟨_, .tail .refl hseal (publishStep_ok (e := Publications.initial) hrun₁)⟩
  obtain ⟨given₂, hreach₂⟩ : ∃ given, Reaches publishStep ok Publications.initial
      ⟨sampleClaim.after s₁, given⟩ :=
    ⟨_, hreach₁.tail (hclaim _) (publishStep_ok (e := ⟨s₁, given₁⟩) hrun₂)⟩
  let w : StoreWrite := .markClaimedExecutionUnknown
    (markUnknownEvent sampleJob sampleClaimed sampleEnd.1 sampleEnd.2 recordReason) sealed.1 sealed.2
  have hafter₃ : w.after (sampleClaim.after s₁) = s₃ := StoreWrite.after_of_ok hmark
  obtain ⟨-, -, hfinal⟩ := Store.markClaimedExecutionUnknown_ok.mp hmark
  obtain ⟨r, -, -, hrecord, -⟩ := finalize_moves (.inr rfl) hfinal
  have hrows : s₃.receipts.rows = [receiptRow sealed.2] := by
    obtain ⟨-, -, job, s₄, s₅, -, -, hraw, happend, -, hins⟩ :=
      Store.finalizeClaimedExecution_ok.mp hfinal
    have hsame := (SameReceipts.insertRaw hraw).trans (.compareAndAppend happend)
    obtain ⟨receipts, pointers, -, hinsert, -, rfl⟩ := insertReceipt_ok.mp hins
    have hrows := Table.rows_insert? hinsert
    rw [hsame.receipts, hclaimed.receipts] at hrows
    exact hrows
  have hgives : w.gives (sampleClaim.after s₁) = [("job", JobState.unknown)] := by
    unfold StoreWrite.gives
    have hempty : (sampleClaim.after s₁).receipts.rows.length = 0 := by
      rw [hclaimed.receipts]
      rfl
    have hid : (receiptRow sealed.2).jobId = "job" := by
      obtain ⟨-, ⟨-, -, hjob, -⟩, -⟩ := Store.finalizeClaimedExecution_ok.mp hfinal
      obtain ⟨-, ⟨hevent, -⟩, -⟩ := Store.finalizeClaimedExecution_ok.mp hfinal
      exact hjob.trans hevent.symm
    have hjob : s₃.records.find? "job" =
        some (unknownRecord sampleJob sampleClaimed sampleEnd recordReason) := hrecord
    rw [hafter₃, hrows, hempty, List.drop_zero]
    simp only [List.filterMap_cons, List.filterMap_nil, hid, hjob, Option.map_some]
    rfl
  refine ⟨⟨sampleClaim.after s₁, given₂⟩, _, _, sealed.1, sealed.2, hreach₂,
    publishStep_ok (w := w) hmark, rfl, ?_, hrows,
    unknownRecord sampleJob sampleClaimed sampleEnd recordReason, Table.mem_of_find? hrecord, rfl, rfl,
    ?_⟩
  · rw [canonicalReceipt_of_sealUnknown hsealed]
    rfl
  · rw [hgives]
    exact List.mem_append_right _ (List.mem_singleton.mpr rfl)

omit [UnicodeData] in
/-- A receipt that names the reason of the record. -/
theorem receipts_agree_sample : ∃ e,
    @Reaches _ _ (@publishStep UnicodeData.asciiOnly) (fun e w => w.Reasoned e.store)
      Publications.initial e ∧
    (∃ record ∈ e.store.records.rows, record.state = .unknown ∧
      (record.jobId, record.state) ∈ e.given) ∧
    @Publications.Agrees UnicodeData.asciiOnly e := by
  let _ := UnicodeData.asciiOnly
  obtain ⟨e, e', event, raw, receipt, hreach, hstep, hevent, hfield, -, record, hmem, hstate, -,
    hgiven⟩ := @marked_sample (fun e w => w.Reasoned e.store) "handler_timed_out" (by decide)
      trivial fun _ => trivial
  have hreasoned : (StoreWrite.markClaimedExecutionUnknown event raw receipt).Reasoned e.store := by
    change _ = Json.ofOption _
    rw [hfield, hevent]
    rfl
  have hreach' := hreach.tail hreasoned hstep
  exact ⟨e', hreach', ⟨record, hmem, hstate, hgiven⟩, receipts_agree hreach'⟩

omit [UnicodeData] in
/-- **A receipt with another reason**: the store takes it, and the job can no longer be
projected. -/
theorem unknown_receipt_with_other_reason : ∃ e,
    @Reaches _ _ (@publishStep UnicodeData.asciiOnly) AnyStep Publications.initial e ∧
    ¬ @Publications.Agrees UnicodeData.asciiOnly e := by
  let _ := UnicodeData.asciiOnly
  obtain ⟨e, e', event, raw, receipt, hreach, hstep, -, hfield, hrows, record, hmem, hstate, hreason,
    hgiven⟩ := @marked_sample AnyStep "worker_lost" (by decide) trivial fun _ => trivial
  refine ⟨e', hreach.tail trivial hstep, ?_⟩
  intro hagrees
  obtain ⟨job, shown, -, -, hretrieve, -, hkind, -, hsame⟩ :=
    hagrees record hmem (.inl hstate) hgiven
  obtain ⟨row, hrow, hcanonical⟩ := mem_of_retrieve hretrieve
  rw [hrows] at hrow
  have hshown := hsame (.inl (hkind.mp hstate))
  rw [hcanonical, List.mem_singleton.mp hrow, hreason] at hshown
  have htext : "handler_timed_out" = "worker_lost" := Json.str.inj (hfield.symm.trans hshown)
  exact absurd htext (by decide)

end AgentRuntimeOps.RootActions
