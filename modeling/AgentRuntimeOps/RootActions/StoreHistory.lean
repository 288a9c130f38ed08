import AgentRuntimeOps.RootActions.AuthSpecs
import AgentRuntimeOps.RootActions.StoreOps

/-!
# What a store never forgets

A record moves along the edges of `apply_transition` only (`JobRecord.Follows`), so a job that has
left `PENDING` never returns to it, executes at most once and stays `TERMINAL` once it is.

`Store.Extends s s'` says that `s'` is a later store than `s`: sealed jobs and raw receipts are
still there, every record is one that follows the old one, the ledger has grown at its end, a
consumed ceremony is unchanged and a credential keeps its identity.  Every method extends the store
it is called on (`extends_run`).
-/

set_option linter.unusedSectionVars false

namespace AgentRuntimeOps.RootActions

open AgentRuntimeOps.Lib Connection

/-! ## Records -/

/-- `r'` is reached from `r` by transitions. -/
def JobRecord.Follows : JobRecord → JobRecord → Prop :=
  Relation.ReflTransGen fun r r' => ∃ event, applyTransition r event = .ok r'

namespace JobRecord.Follows

variable {r r' : JobRecord}

lemma refl (r : JobRecord) : r.Follows r := Relation.ReflTransGen.refl

lemma trans {r'' : JobRecord} (h : r.Follows r') (h' : r'.Follows r'') : r.Follows r'' :=
  Relation.ReflTransGen.trans h h'

lemma single {event : TransitionEvent} (h : applyTransition r event = .ok r') : r.Follows r' :=
  Relation.ReflTransGen.single ⟨event, h⟩

/-- What every transition preserves, every sequence of transitions preserves. -/
lemma preserves {P : JobRecord → Prop} (h : r.Follows r')
    (hstep : ∀ a b event, P a → applyTransition a event = .ok b → P b) (hr : P r) : P r' := by
  induction h with
  | refl => exact hr
  | tail _ hab ih =>
      obtain ⟨event, hevent⟩ := hab
      exact hstep _ _ event ih hevent

lemma identity (h : r.Follows r') : r'.jobId = r.jobId ∧ r'.jobDigest = r.jobDigest := by
  refine h.preserves (P := fun x => x.jobId = r.jobId ∧ x.jobDigest = r.jobDigest) ?_ ⟨rfl, rfl⟩
  intro a b event ha happly
  obtain ⟨hid, hdigest, -⟩ := identity_of_transition happly
  exact ⟨hid.trans ha.1, hdigest.trans ha.2⟩

/-- A job that was claimed stays claimed. -/
lemma count (h : r.Follows r') (hr : r.executionCount = 1) : r'.executionCount = 1 := by
  refine h.preserves (P := fun x => x.executionCount = 1) ?_ hr
  intro a b event ha happly
  obtain ⟨hchecked, hmoves, -⟩ := applyTransition_ok.mp happly
  cases hmoves with
  | claim _ _ _ _ _ hres => subst hres; rfl
  | close _ hpending _ _ _ _ _ _ =>
      obtain ⟨hcount, -⟩ := hchecked.valid.pending hpending
      omega
  | complete _ _ _ _ _ _ _ _ hres => subst hres; rfl
  | mark _ _ _ _ _ _ hres => subst hres; rfl
  | reconcile _ _ _ _ _ _ _ _ hres => subst hres; rfl

/-- No transition enters `PENDING`. -/
lemma ne_pending (h : r.Follows r') (hr : r.state ≠ .pending) : r'.state ≠ .pending := by
  refine h.preserves (P := fun x => x.state ≠ .pending) ?_ hr
  intro a b event _ happly
  obtain ⟨-, hmoves, -⟩ := applyTransition_ok.mp happly
  cases hmoves with
  | claim _ _ _ _ _ hres => subst hres; exact nofun
  | close _ _ _ _ _ _ _ hres => subst hres; exact nofun
  | complete _ _ _ _ _ _ _ _ hres => subst hres; exact nofun
  | mark _ _ _ _ _ _ hres => subst hres; exact nofun
  | reconcile _ _ _ _ _ _ _ _ hres => subst hres; exact nofun

/-- Only a pending job becomes running, so a final state stays final. -/
lemma isFinal (h : r.Follows r') (hr : r.state.isFinal = true) : r'.state.isFinal = true := by
  refine h.preserves (P := fun x => x.state.isFinal = true) ?_ hr
  intro a b event ha happly
  obtain ⟨-, hmoves, -⟩ := applyTransition_ok.mp happly
  cases hmoves with
  | claim _ hpending _ _ _ hres => rw [hpending] at ha; cases ha
  | close _ _ _ _ _ _ _ hres => subst hres; rfl
  | complete _ _ _ _ _ _ _ _ hres => subst hres; rfl
  | mark _ _ _ _ _ _ hres => subst hres; rfl
  | reconcile _ _ _ _ _ _ _ _ hres => subst hres; rfl

/-- `TERMINAL` is absorbing. -/
lemma eq_of_terminal (h : r.Follows r') (hr : r.state = .terminal) : r' = r := by
  refine h.preserves (P := fun x => x = r) ?_ rfl
  rintro a b event rfl happly
  obtain ⟨-, hmoves, -⟩ := applyTransition_ok.mp happly
  cases hmoves with
  | claim _ hsource => rw [hr] at hsource; cases hsource
  | close _ hsource => rw [hr] at hsource; cases hsource
  | complete _ hsource => rw [hr] at hsource; cases hsource
  | mark _ hsource => rw [hr] at hsource; cases hsource
  | reconcile _ hsource => rw [hr] at hsource; cases hsource

end JobRecord.Follows

/-! ## Stores -/

/-- `s'` is a later store than `s`. -/
structure Store.Extends (s s' : Store) : Prop where
  jobs : ∀ k row, s.jobs.find? k = some row → s'.jobs.find? k = some row
  records : ∀ k r, s.records.find? k = some r → ∃ r', s'.records.find? k = some r' ∧ r.Follows r'
  ledger : s.ledger <+: s'.ledger
  raws : ∀ k raw, s.rawReceipts.find? k = some raw → s'.rawReceipts.find? k = some raw
  ceremonies : ∀ k c, s.ceremonies.find? k = some c → c.state = .consumed →
    s'.ceremonies.find? k = some c
  credentials : ∀ row ∈ s.credentials.rows, ∃ row' ∈ s'.credentials.rows,
    row'.credentialFingerprint = row.credentialFingerprint ∧
      row'.credential.role = row.credential.role

namespace Store.Extends

variable {s s₁ s' : Store}

lemma refl (s : Store) : s.Extends s :=
  ⟨fun _ _ h => h, fun _ r h => ⟨r, h, .refl r⟩, List.prefix_refl _, fun _ _ h => h,
    fun _ _ h _ => h, fun row h => ⟨row, h, rfl, rfl⟩⟩

lemma trans (h : s.Extends s₁) (h' : s₁.Extends s') : s.Extends s' := by
  refine ⟨fun k row hrow => h'.jobs k row (h.jobs k row hrow), ?_, h.ledger.trans h'.ledger,
    fun k raw hraw => h'.raws k raw (h.raws k raw hraw),
    fun k c hc hstate => h'.ceremonies k c (h.ceremonies k c hc hstate) hstate, ?_⟩
  · intro k r hr
    obtain ⟨r₁, hr₁, hfollows⟩ := h.records k r hr
    obtain ⟨r', hr', hfollows'⟩ := h'.records k r₁ hr₁
    exact ⟨r', hr', hfollows.trans hfollows'⟩
  · intro row hrow
    obtain ⟨row₁, hrow₁, hprint, hrole⟩ := h.credentials row hrow
    obtain ⟨row', hrow', hprint', hrole'⟩ := h'.credentials row₁ hrow₁
    exact ⟨row', hrow', hprint'.trans hprint, hrole'.trans hrole⟩

/-- A lookup that succeeded still succeeds after an insertion. -/
lemma find?_of_insert? {ρ κ : Type} [DecidableEq κ] {key : ρ → κ} {t t' : Table ρ κ key} {row : ρ}
    (h : t.insert? row = some t') {k : κ} {r : ρ} (hr : t.find? k = some r) :
    t'.find? k = some r := by
  rw [Table.find?_insert? h]
  split_ifs with hk
  · have hnone := Table.find?_none_of_insert? h
    rw [hk, hr] at hnone
    cases hnone
  · exact hr

/-! ## The statements -/

section statements

variable [UnicodeData] {u : Unit}

lemma insertJob {job : SealedJob} {submission : SubmissionMetadata}
    (h : Connection.insertJob job submission s = (.ok u, s')) : s.Extends s' := by
  obtain ⟨jobs, -, hins, rfl⟩ := insertJob_ok.mp h
  exact { refl s with jobs := fun k row hrow => find?_of_insert? hins hrow }

lemma insertRecord {record : JobRecord}
    (hpending : record.terminalOutcome = none ∧ record.reasonCode = none)
    (h : insertRecordAndInitialLedger record s = (.ok u, s')) : s.Extends s' := by
  obtain ⟨records, hins, -, -, rfl⟩ := (insertRecordAndInitialLedger_ok hpending).mp h
  exact { refl s with
    records := fun k r hr => ⟨r, find?_of_insert? hins hr, .refl r⟩
    ledger := List.prefix_append _ _ }

lemma compareAndAppend {event : TransitionEvent} {updated : JobRecord}
    (h : Connection.compareAndAppend event s = (.ok updated, s')) : s.Extends s' := by
  have hfind := find?_of_compareAndAppend h
  obtain ⟨current, hcurrent, happly, -, -, rfl⟩ := compareAndAppend_ok.mp h
  refine { refl s with records := ?_, ledger := List.prefix_append _ _ }
  intro k r hr
  rw [hfind]
  split_ifs with hk
  · rw [hk, hcurrent] at hr
    cases hr
    exact ⟨updated, rfl, .single happly⟩
  · exact ⟨r, hr, .refl r⟩

lemma insertRaw {raw : RawReceiptArtifact} (h : Connection.insertRaw raw s = (.ok u, s')) :
    s.Extends s' := by
  obtain ⟨rawReceipts, -, hins, rfl⟩ := insertRaw_ok.mp h
  exact { refl s with raws := fun k row hrow => find?_of_insert? hins hrow }

lemma insertReceipt {artifact : ReceiptArtifact}
    (h : Connection.insertReceipt artifact s = (.ok u, s')) : s.Extends s' := by
  obtain ⟨receipts, pointers, -, -, -, rfl⟩ := insertReceipt_ok.mp h
  exact { refl s with }

lemma insertCeremony {ceremony : PendingCeremony}
    (h : Connection.insertCeremony ceremony s = (.ok u, s')) : s.Extends s' := by
  obtain ⟨ceremonies, -, hins, rfl⟩ := insertCeremony_ok.mp h
  exact { refl s with ceremonies := fun k c hc _ => find?_of_insert? hins hc }

lemma insertCredential {credential : RegisteredCredential}
    (h : Connection.insertCredential credential s = (.ok u, s')) : s.Extends s' := by
  obtain ⟨credentials, -, hins, rfl⟩ := insertCredential_ok.mp h
  refine { refl s with credentials := fun row hrow => ⟨row, ?_, rfl, rfl⟩ }
  exact (Table.mem_insert? hins).mpr (.inl hrow)

/-- An update of issued ceremonies leaves the consumed ones alone. -/
lemma updateCeremonies {p : PendingCeremony → Bool} {f : PendingCeremony → PendingCeremony}
    (hf : ∀ r, (f r).ceremonyId = r.ceremonyId) (hp : ∀ r, p r = true → r.state = .issued) :
    s.Extends { s with ceremonies := s.ceremonies.updateWhere p f hf } := by
  refine { refl s with ceremonies := ?_ }
  intro k c hc hconsumed
  change (s.ceremonies.updateWhere p f hf).find? k = some c
  rw [Table.find?_updateWhere, hc, Option.map_some]
  have hnot : p c = false := by
    rw [Bool.eq_false_iff]
    intro hpc
    rw [hp c hpc] at hconsumed
    cases hconsumed
  rw [hnot]
  rfl

lemma consumeCeremony (ceremonyId consumedAt fingerprint : String) :
    s.Extends { s with ceremonies := consumedCeremonies s ceremonyId consumedAt fingerprint } := by
  refine updateCeremonies (ceremonyId_assignConsumed consumedAt fingerprint) ?_
  intro r hr
  rw [Bool.and_eq_true, decide_eq_true_eq, decide_eq_true_eq] at hr
  exact hr.2

lemma expireCeremonies (issuedAt : String) :
    s.Extends { s with ceremonies := expiredCeremonies s issuedAt } := by
  refine updateCeremonies (ceremonyId_assignExpired issuedAt) ?_
  intro r hr
  simp only [Bool.and_eq_true, decide_eq_true_eq] at hr
  exact hr.1.2

lemma advanceSignCount (credential : RegisteredCredential) (verified : VerifiedAssertion) :
    s.Extends { s with credentials := advancedCredentials s credential verified } := by
  refine { refl s with credentials := ?_ }
  intro row hrow
  change ∃ row' ∈ (advancedCredentials s credential verified).rows, _
  unfold advancedCredentials
  refine ⟨_, Table.mem_updateWhere.mpr ⟨row, hrow, rfl⟩, ?_⟩
  split_ifs
  · exact ⟨rfl, rfl⟩
  · exact ⟨rfl, rfl⟩

lemma insertApproval {approval : ApprovalRecord} (hverified : approval.userVerified = true)
    (h : Connection.insertApproval approval s = (.ok u, s')) : s.Extends s' := by
  obtain ⟨approvals, -, -, rfl⟩ := (insertApproval_ok hverified).mp h
  exact { refl s with }

end statements

/-! ## The methods -/

section methods

variable [UnicodeData]

lemma admits {job : SealedJob} {submission : SubmissionMetadata} {pending : JobRecord}
    {eventId occurredAt : String} (hinit : initialRecord job eventId occurredAt = .ok pending)
    (h : Store.Admits s s' job submission pending) : s.Extends s' := by
  obtain ⟨rfl, -⟩ := initialRecord_ok.mp hinit
  obtain ⟨-, s₀, hjob, hrecord⟩ := h
  exact (insertJob hjob).trans (insertRecord ⟨rfl, rfl⟩ hrecord)

lemma finalize {event : TransitionEvent} {raw : RawReceiptArtifact} {receipt : ReceiptArtifact}
    {record : JobRecord}
    (h : Store.finalizeClaimedExecution event raw receipt s = (.ok record, s')) : s.Extends s' := by
  obtain ⟨-, -, job, s₁, s₂, -, -, hraw, happend, -, hins⟩ :=
    Store.finalizeClaimedExecution_ok.mp h
  exact ((insertRaw hraw).trans (compareAndAppend happend)).trans (insertReceipt hins)

end methods

end Store.Extends

open Store.Extends in
/-- **Every method extends the store.** -/
theorem extends_run [UnicodeData] (w : StoreWrite) (s : Store) (r : w.Res) (s' : Store)
    (hrun : w.run s = (.ok r, s')) : s.Extends s' := by
  cases w with
  | putIfAbsent job =>
      obtain ⟨-, hins⟩ := Store.putIfAbsent_ok hrun
      exact insertJob hins
  | createPending record =>
      obtain ⟨hvalid, hpending, -, -, hins⟩ := Store.createPending_ok hrun
      obtain ⟨-, houtcome, hreason⟩ := hvalid.pending hpending
      exact insertRecord ⟨houtcome, hreason⟩ hins
  | sealPending job eventId occurredAt submission limits =>
      obtain ⟨-, hinit, hadmits⟩ := Store.sealPending_ok hrun
      exact admits hinit hadmits
  | sealRejected job pendingEventId pendingOccurredAt closeEvent notice submission limits =>
      obtain ⟨-, -, -, -, -, -, pending, s₁, closed, s₂, hinit, hadmits, happend, -, hins⟩ :=
        Store.sealRejected_ok hrun
      exact ((admits hinit hadmits).trans (compareAndAppend happend)).trans (insertReceipt hins)
  | sealWithLineageAdmission job pendingEventId pendingOccurredAt circuitEvent circuitNotice
      submission limits failurePolicy =>
      obtain ⟨-, -, pending, s₁, hinit, hadmits, hcases⟩ := Store.sealWithLineageAdmission_ok hrun
      rcases hcases with ⟨-, -, rfl⟩ | ⟨-, -, -, -, -, s₂, happend, -, hins⟩
      · exact admits hinit hadmits
      · exact ((admits hinit hadmits).trans (compareAndAppend happend)).trans (insertReceipt hins)
  | compareAndAppend event => exact Store.Extends.compareAndAppend (Tx.transaction_ok.mp hrun)
  | putRawIfAbsent artifact => exact insertRaw (Store.putRawIfAbsent_ok hrun)
  | completeClaimedExecution event raw receipt =>
      obtain ⟨-, -, hfinal⟩ := Store.completeClaimedExecution_ok.mp hrun
      exact finalize hfinal
  | markClaimedExecutionUnknown event raw receipt =>
      obtain ⟨-, -, hfinal⟩ := Store.markClaimedExecutionUnknown_ok.mp hrun
      exact finalize hfinal
  | publishIfAbsent artifact => exact insertReceipt (Store.publishIfAbsent_ok hrun)
  | quarantineIfAbsent record =>
      obtain ⟨s₁, quarantine, hins, rfl⟩ := Store.quarantineIfAbsent_ok hrun
      exact (insertReceipt hins).trans { Store.Extends.refl s₁ with }
  | createAuthBootstrap session =>
      obtain ⟨-, -, _, bootstraps, -, -, rfl⟩ := Store.createAuthBootstrap_ok hrun
      exact { Store.Extends.refl s with }
  | issueRegistrationCeremony tokenDigest ceremony =>
      obtain ⟨-, hins⟩ := Store.issueRegistrationCeremony_ok hrun
      exact insertCeremony hins
  | completeRegistration tokenDigest ceremonyId credential consumedAt =>
      obtain ⟨-, ceremony, bootstrap, s₁, s₂, -, -, -, -, -, -, -, hins, rfl, rfl⟩ :=
        Store.completeRegistration_ok hrun
      have hconsume := (insertCredential hins).trans
        (consumeCeremony ceremony.ceremonyId consumedAt credential.fingerprint)
      exact hconsume.trans { Store.Extends.refl _ with }
  | issueApprovalCeremony ceremony =>
      obtain ⟨-, -, -, -, hins⟩ := Store.issueApprovalCeremony_ok hrun
      exact (expireCeremonies ceremony.issuedAt).trans (insertCeremony hins)
  | claimWithApproval ceremony credential verified approval claimEvent =>
      obtain ⟨hcontract, -, -, -, s₁, s₂, s₃, rfl, rfl, hins, happend⟩ :=
        Store.claimWithApproval_ok hrun
      have hadvance := (advanceSignCount (s := s) credential verified).trans
        (consumeCeremony ceremony.ceremonyId approval.verifiedAt credential.fingerprint)
      have happroval := hadvance.trans (insertApproval hcontract.userVerified hins)
      exact happroval.trans (Store.Extends.compareAndAppend happend)

/-! ## What a call does to a record -/

/-- The transition that a method applies to a record that is already there. -/
def StoreWrite.event? : StoreWrite → Option TransitionEvent
  | .compareAndAppend event | .completeClaimedExecution event ..
  | .markClaimedExecutionUnknown event .. | .claimWithApproval _ _ _ _ event => some event
  | _ => none

/-- A lookup sees the record it saw before, or what the transition of the call made of it. -/
def RecordMoves (s s' : Store) (event? : Option TransitionEvent) : Prop :=
  ∀ k r, s.records.find? k = some r → s'.records.find? k = some r ∨
    ∃ event r', event? = some event ∧ event.jobId = k ∧ applyTransition r event = .ok r' ∧
      s'.records.find? k = some r'

namespace RecordMoves

variable [UnicodeData] {s s₁ s' : Store} {event? : Option TransitionEvent}

lemma of_records (h : s'.records = s.records) : RecordMoves s s' event? := by
  intro k r hr
  rw [h]
  exact .inl hr

lemma compareAndAppend {event : TransitionEvent} {updated : JobRecord}
    (h : Connection.compareAndAppend event s = (.ok updated, s')) :
    RecordMoves s s' (some event) := by
  intro k r hr
  rw [find?_of_compareAndAppend h]
  split_ifs with hk
  · obtain ⟨current, hcurrent, happly, -⟩ := compareAndAppend_ok.mp h
    rw [hk, hcurrent] at hr
    cases hr
    exact .inr ⟨event, updated, rfl, hk.symm, happly, rfl⟩
  · exact .inl hr

/-- A seal adds a record and leaves the others alone. -/
lemma admits {job : SealedJob} {submission : SubmissionMetadata} {pending : JobRecord}
    {eventId occurredAt : String} (hinit : initialRecord job eventId occurredAt = .ok pending)
    (h : Store.Admits s s₁ job submission pending) :
    s.records.find? job.jobId = none ∧ s₁.records.find? job.jobId = some pending ∧
      ∀ k, k ≠ job.jobId → s₁.records.find? k = s.records.find? k := by
  obtain ⟨rfl, -⟩ := initialRecord_ok.mp hinit
  obtain ⟨-, s₀, hjob, hrecord⟩ := h
  obtain ⟨jobs, -, -, rfl⟩ := insertJob_ok.mp hjob
  obtain ⟨records, hins, -, -, rfl⟩ := (insertRecordAndInitialLedger_ok ⟨rfl, rfl⟩).mp hrecord
  refine ⟨Table.find?_none_of_insert? hins, ?_, fun k hk => ?_⟩
  · exact (Table.find?_insert? hins _).trans (if_pos rfl)
  · exact (Table.find?_insert? hins _).trans (if_neg (Ne.symm hk))

/-- A seal that closes the job at once does not touch the other records either. -/
lemma closes {job : SealedJob} {submission : SubmissionMetadata} {pending closed : JobRecord}
    {eventId occurredAt : String} {event : TransitionEvent} {notice : ReceiptArtifact} {s₂ : Store}
    (hinit : initialRecord job eventId occurredAt = .ok pending)
    (h : Store.Admits s s₁ job submission pending) (hid : event.jobId = job.jobId)
    (happend : Connection.compareAndAppend event s₁ = (.ok closed, s₂))
    (hins : Connection.insertReceipt notice s₂ = (.ok (), s')) :
    RecordMoves s s' event? ∧ s'.records.find? job.jobId = some closed := by
  obtain ⟨hnone, -, hrest⟩ := admits hinit h
  obtain ⟨receipts, pointers, -, -, -, rfl⟩ := insertReceipt_ok.mp hins
  have hfind := find?_of_compareAndAppend happend
  refine ⟨fun k r hr => .inl ?_, ?_⟩
  · have hk : k ≠ job.jobId := by
      rintro rfl
      rw [hnone] at hr
      cases hr
    change s₂.records.find? k = some r
    rw [hfind, hid, if_neg hk, hrest k hk]
    exact hr
  · change s₂.records.find? job.jobId = some closed
    rw [hfind, if_pos hid.symm]

lemma finalize {event : TransitionEvent} {raw : RawReceiptArtifact} {receipt : ReceiptArtifact}
    {record : JobRecord}
    (h : Store.finalizeClaimedExecution event raw receipt s = (.ok record, s')) :
    RecordMoves s s' (some event) := by
  obtain ⟨-, -, job, s₁, s₂, -, -, hraw, happend, -, hins⟩ :=
    Store.finalizeClaimedExecution_ok.mp h
  obtain ⟨rawReceipts, -, -, rfl⟩ := insertRaw_ok.mp hraw
  obtain ⟨receipts, pointers, -, -, -, rfl⟩ := insertReceipt_ok.mp hins
  have hmoves := compareAndAppend happend
  exact hmoves

/-- **What a call does to the records that are there.** -/
theorem run (w : StoreWrite) (r : w.Res) (hrun : w.run s = (.ok r, s')) :
    RecordMoves s s' w.event? := by
  cases w with
  | putIfAbsent job =>
      obtain ⟨jobs, -, -, rfl⟩ := insertJob_ok.mp (Store.putIfAbsent_ok hrun).2
      exact of_records rfl
  | createPending record =>
      obtain ⟨hvalid, hpending, -, -, hins⟩ := Store.createPending_ok hrun
      obtain ⟨-, houtcome, hreason⟩ := hvalid.pending hpending
      obtain ⟨records, hinsert, -, -, rfl⟩ :=
        (insertRecordAndInitialLedger_ok ⟨houtcome, hreason⟩).mp hins
      exact fun k r hr => .inl (Store.Extends.find?_of_insert? hinsert hr)
  | sealPending job eventId occurredAt submission limits =>
      obtain ⟨-, hinit, hadmits⟩ := Store.sealPending_ok hrun
      obtain ⟨hnone, -, hrest⟩ := admits hinit hadmits
      intro k r hr
      have hk : k ≠ job.jobId := by
        rintro rfl
        rw [hnone] at hr
        cases hr
      rw [hrest k hk]
      exact .inl hr
  | sealRejected job pendingEventId pendingOccurredAt closeEvent notice submission limits =>
      obtain ⟨-, -, -, -, -, hid, pending, s₁, closed, s₂, hinit, hadmits, happend, -, hins⟩ :=
        Store.sealRejected_ok hrun
      exact (closes hinit hadmits hid happend hins).1
  | sealWithLineageAdmission job pendingEventId pendingOccurredAt circuitEvent circuitNotice
      submission limits failurePolicy =>
      obtain ⟨-, -, pending, s₁, hinit, hadmits, hcases⟩ := Store.sealWithLineageAdmission_ok hrun
      rcases hcases with ⟨-, -, rfl⟩ | ⟨-, -, hid, -, -, s₂, happend, -, hins⟩
      · obtain ⟨hnone, -, hrest⟩ := admits hinit hadmits
        intro k r hr
        have hk : k ≠ job.jobId := by
          rintro rfl
          rw [hnone] at hr
          cases hr
        rw [hrest k hk]
        exact .inl hr
      · exact (closes hinit hadmits hid happend hins).1
  | compareAndAppend event => exact compareAndAppend (Tx.transaction_ok.mp hrun)
  | putRawIfAbsent artifact =>
      obtain ⟨rawReceipts, -, -, rfl⟩ := insertRaw_ok.mp (Store.putRawIfAbsent_ok hrun)
      exact of_records rfl
  | completeClaimedExecution event raw receipt =>
      exact finalize (Store.completeClaimedExecution_ok.mp hrun).2.2
  | markClaimedExecutionUnknown event raw receipt =>
      exact finalize (Store.markClaimedExecutionUnknown_ok.mp hrun).2.2
  | publishIfAbsent artifact =>
      obtain ⟨receipts, pointers, -, -, -, rfl⟩ := insertReceipt_ok.mp (Store.publishIfAbsent_ok hrun)
      exact of_records rfl
  | quarantineIfAbsent record =>
      obtain ⟨s₁, quarantine, hins, rfl⟩ := Store.quarantineIfAbsent_ok hrun
      obtain ⟨receipts, pointers, -, -, -, rfl⟩ := insertReceipt_ok.mp hins
      exact of_records rfl
  | createAuthBootstrap session =>
      obtain ⟨-, -, _, bootstraps, -, -, rfl⟩ := Store.createAuthBootstrap_ok hrun
      exact of_records rfl
  | issueRegistrationCeremony tokenDigest ceremony =>
      obtain ⟨-, hins⟩ := Store.issueRegistrationCeremony_ok hrun
      obtain ⟨ceremonies, -, -, rfl⟩ := insertCeremony_ok.mp hins
      exact of_records rfl
  | completeRegistration tokenDigest ceremonyId credential consumedAt =>
      obtain ⟨-, ceremony, bootstrap, s₁, s₂, -, -, -, -, -, -, -, hins, rfl, rfl⟩ :=
        Store.completeRegistration_ok hrun
      obtain ⟨credentials, -, -, rfl⟩ := insertCredential_ok.mp hins
      exact of_records rfl
  | issueApprovalCeremony ceremony =>
      obtain ⟨-, -, -, -, hins⟩ := Store.issueApprovalCeremony_ok hrun
      obtain ⟨ceremonies, -, -, rfl⟩ := insertCeremony_ok.mp hins
      exact of_records rfl
  | claimWithApproval ceremony credential verified approval claimEvent =>
      obtain ⟨hcontract, -, -, -, s₁, s₂, s₃, rfl, rfl, hins, happend⟩ :=
        Store.claimWithApproval_ok hrun
      obtain ⟨approvals, -, -, rfl⟩ := (insertApproval_ok hcontract.userVerified).mp hins
      have hmoves := compareAndAppend happend
      exact hmoves

end RecordMoves

/-! ## The tables of a job and the tables of the authorization -/

/-- The tables of `_AUTH_SCHEMA`. -/
structure AuthTables where
  bootstraps : Table BootstrapSession String (fun row => row.bootstrapId)
  credentials : Table CredentialRow (List UInt8) (fun row => row.credential.credentialId)
  ceremonies : Table PendingCeremony String (fun row => row.ceremonyId)
  approvals : Table ApprovalRecord String (fun row => row.approvalId)

/-- The authorization part of a store. -/
def Store.authTables (s : Store) : AuthTables :=
  ⟨s.bootstraps, s.credentials, s.ceremonies, s.approvals⟩

/-- The methods that write a table of `_AUTH_SCHEMA`. -/
def StoreWrite.isAuth : StoreWrite → Bool
  | .createAuthBootstrap .. | .issueRegistrationCeremony .. | .completeRegistration ..
  | .issueApprovalCeremony .. | .claimWithApproval .. => true
  | _ => false

section authTables

variable [UnicodeData] {s s' : Store}

lemma authTables_admits {job : SealedJob} {submission : SubmissionMetadata} {pending : JobRecord}
    {eventId occurredAt : String} (hinit : initialRecord job eventId occurredAt = .ok pending)
    (h : Store.Admits s s' job submission pending) : s'.authTables = s.authTables := by
  obtain ⟨rfl, -⟩ := initialRecord_ok.mp hinit
  obtain ⟨-, s₀, hjob, hrecord⟩ := h
  obtain ⟨jobs, -, -, rfl⟩ := insertJob_ok.mp hjob
  obtain ⟨records, -, -, -, rfl⟩ := (insertRecordAndInitialLedger_ok ⟨rfl, rfl⟩).mp hrecord
  rfl

lemma authTables_compareAndAppend {event : TransitionEvent} {updated : JobRecord}
    (h : Connection.compareAndAppend event s = (.ok updated, s')) :
    s'.authTables = s.authTables := by
  obtain ⟨current, -, -, -, -, rfl⟩ := compareAndAppend_ok.mp h
  rfl

lemma authTables_insertReceipt {artifact : ReceiptArtifact}
    (h : Connection.insertReceipt artifact s = (.ok (), s')) : s'.authTables = s.authTables := by
  obtain ⟨receipts, pointers, -, -, -, rfl⟩ := insertReceipt_ok.mp h
  rfl

lemma authTables_finalize {event : TransitionEvent} {raw : RawReceiptArtifact}
    {receipt : ReceiptArtifact} {record : JobRecord}
    (h : Store.finalizeClaimedExecution event raw receipt s = (.ok record, s')) :
    s'.authTables = s.authTables := by
  obtain ⟨-, -, job, s₁, s₂, -, -, hraw, happend, -, hins⟩ :=
    Store.finalizeClaimedExecution_ok.mp h
  obtain ⟨rawReceipts, -, -, rfl⟩ := insertRaw_ok.mp hraw
  have happended := authTables_compareAndAppend happend
  exact (authTables_insertReceipt hins).trans happended

/-- The other methods leave the authorization alone. -/
theorem authTables_run (w : StoreWrite) (r : w.Res) (hw : w.isAuth = false)
    (hrun : w.run s = (.ok r, s')) : s'.authTables = s.authTables := by
  cases w with
  | putIfAbsent job =>
      obtain ⟨jobs, -, -, rfl⟩ := insertJob_ok.mp (Store.putIfAbsent_ok hrun).2
      rfl
  | createPending record =>
      obtain ⟨hvalid, hpending, -, -, hins⟩ := Store.createPending_ok hrun
      obtain ⟨-, houtcome, hreason⟩ := hvalid.pending hpending
      obtain ⟨records, -, -, -, rfl⟩ :=
        (insertRecordAndInitialLedger_ok ⟨houtcome, hreason⟩).mp hins
      rfl
  | sealPending job eventId occurredAt submission limits =>
      obtain ⟨-, hinit, hadmits⟩ := Store.sealPending_ok hrun
      exact authTables_admits hinit hadmits
  | sealRejected job pendingEventId pendingOccurredAt closeEvent notice submission limits =>
      obtain ⟨-, -, -, -, -, -, pending, s₁, closed, s₂, hinit, hadmits, happend, -, hins⟩ :=
        Store.sealRejected_ok hrun
      exact (authTables_insertReceipt hins).trans
        ((authTables_compareAndAppend happend).trans (authTables_admits hinit hadmits))
  | sealWithLineageAdmission job pendingEventId pendingOccurredAt circuitEvent circuitNotice
      submission limits failurePolicy =>
      obtain ⟨-, -, pending, s₁, hinit, hadmits, hcases⟩ := Store.sealWithLineageAdmission_ok hrun
      rcases hcases with ⟨-, -, rfl⟩ | ⟨-, -, -, -, -, s₂, happend, -, hins⟩
      · exact authTables_admits hinit hadmits
      · exact (authTables_insertReceipt hins).trans
          ((authTables_compareAndAppend happend).trans (authTables_admits hinit hadmits))
  | compareAndAppend event => exact authTables_compareAndAppend (Tx.transaction_ok.mp hrun)
  | putRawIfAbsent artifact =>
      obtain ⟨rawReceipts, -, -, rfl⟩ := insertRaw_ok.mp (Store.putRawIfAbsent_ok hrun)
      rfl
  | completeClaimedExecution event raw receipt =>
      exact authTables_finalize (Store.completeClaimedExecution_ok.mp hrun).2.2
  | markClaimedExecutionUnknown event raw receipt =>
      exact authTables_finalize (Store.markClaimedExecutionUnknown_ok.mp hrun).2.2
  | publishIfAbsent artifact => exact authTables_insertReceipt (Store.publishIfAbsent_ok hrun)
  | quarantineIfAbsent record =>
      obtain ⟨s₁, quarantine, hins, rfl⟩ := Store.quarantineIfAbsent_ok hrun
      have hinserted := authTables_insertReceipt hins
      exact hinserted
  | createAuthBootstrap session => cases hw
  | issueRegistrationCeremony tokenDigest ceremony => cases hw
  | completeRegistration tokenDigest ceremonyId credential consumedAt => cases hw
  | issueApprovalCeremony ceremony => cases hw
  | claimWithApproval ceremony credential verified approval claimEvent => cases hw

end authTables

/-- A call, successful or not, extends the store. -/
theorem extends_after [UnicodeData] (w : StoreWrite) (s : Store) : s.Extends (w.after s) := by
  rcases w.after_cases s with hsame | ⟨r, hr⟩
  · rw [hsame]
    exact .refl s
  · exact extends_run w s r _ hr

end AgentRuntimeOps.RootActions
