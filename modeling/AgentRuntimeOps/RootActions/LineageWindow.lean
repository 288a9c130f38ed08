import AgentRuntimeOps.RootActions.PublicView
import AgentRuntimeOps.RootActions.ReceiptAgreement

/-!
# The lineage summary of a job that has ended

The public status of a job shows a summary of its lineage over a window that ends when the job last
changed, and calls it immutable.  It is computed anew from the jobs of the store each time it is
read.  The window is closed at both ends and timestamps have a resolution of one second, so a job
that is received in the second in which the other one ended belongs to its window; and a job of the
window that is open shows its outcome as soon as it has one.

Every such event raises a number of the summary and none is ever lowered, so the summary is the same
in the end exactly when there was no such event (`lineage_summary_unchanged_iff`).
-/

set_option linter.unusedSectionVars false

namespace AgentRuntimeOps.RootActions

open AgentRuntimeOps.Lib Connection Program Store

variable [UnicodeData]

/-! ## Summaries of records -/

/-- What a summary reads of a record: how it ended. -/
def JobRecord.ended (record : JobRecord) : Option (TerminalOutcome × Option String) :=
  record.terminalOutcome.map fun outcome => (outcome, record.reasonCode)

omit [UnicodeData] in
lemma countOutcome_eq (records : List JobRecord) (outcome : TerminalOutcome) :
    countOutcome records outcome = (records.map (·.ended)).countP (fun e =>
      decide (e.map Prod.fst = some outcome)) := by
  unfold countOutcome
  rw [List.countP_map]
  congr 1
  funext record
  simp [JobRecord.ended, Function.comp_def]

omit [UnicodeData] in
/-- Records that ended in the same way have the same summary. -/
lemma lineageSummary_congr {s s' : Store} {lineageId measuredAt : String}
    {policy : LineageFailurePolicy}
    (h : ∀ cutoff, secondsBefore measuredAt policy.windowSeconds = .ok cutoff →
      (s'.lineageRecords lineageId cutoff measuredAt).map (·.ended) =
        (s.lineageRecords lineageId cutoff measuredAt).map (·.ended)) :
    s'.lineageSummary lineageId measuredAt policy = s.lineageSummary lineageId measuredAt policy := by
  unfold Store.lineageSummary
  cases hcutoff : secondsBefore measuredAt policy.windowSeconds with
  | error exc => rfl
  | ok cutoff =>
      have hmap := h cutoff hcutoff
      have hlength := congrArg List.length hmap
      rw [List.length_map, List.length_map] at hlength
      have houtcome : ∀ outcome, countOutcome (s'.lineageRecords lineageId cutoff measuredAt) outcome =
          countOutcome (s.lineageRecords lineageId cutoff measuredAt) outcome := by
        intro outcome
        rw [countOutcome_eq, countOutcome_eq, hmap]
      have htechnical : ∀ records : List JobRecord, (records.countP fun record =>
          (record.terminalOutcome = some .failed || record.terminalOutcome = some .prestartFailed) &&
            record.reasonCode.any (· ∈ policy.technicalReasonCodes)) =
          (records.map (·.ended)).countP (fun e => e.any fun p =>
            (p.1 = .failed || p.1 = .prestartFailed) &&
              p.2.any (· ∈ policy.technicalReasonCodes)) := by
        intro records
        rw [List.countP_map]
        congr 1
        funext record
        cases hended : record.terminalOutcome with
        | none => simp [JobRecord.ended, hended]
        | some outcome => simp [JobRecord.ended, hended]
      change Except.ok _ = Except.ok _
      simp only [hlength, houtcome, htechnical, hmap]

/-- The number of submissions and of outcomes that a summary counts. -/
def LineageSummary.total (summary : LineageSummary) : Nat :=
  summary.submissionCount + (summary.terminalCounts.canceled + summary.terminalCounts.expired +
    summary.terminalCounts.failed + summary.terminalCounts.prestartFailed +
    summary.terminalCounts.rejected + summary.terminalCounts.succeeded)

omit [UnicodeData] in
/-- More records, or more records that ended, have a greater summary. -/
lemma total_lt_total {s s' : Store} {lineageId measuredAt cutoff : String}
    {policy : LineageFailurePolicy} {summary summary' : LineageSummary}
    (hcutoff : secondsBefore measuredAt policy.windowSeconds = .ok cutoff)
    (h : s.lineageSummary lineageId measuredAt policy = .ok summary)
    (h' : s'.lineageSummary lineageId measuredAt policy = .ok summary')
    (hlength : (s.lineageRecords lineageId cutoff measuredAt).length ≤
      (s'.lineageRecords lineageId cutoff measuredAt).length)
    (houtcome : ∀ outcome, countOutcome (s.lineageRecords lineageId cutoff measuredAt) outcome ≤
      countOutcome (s'.lineageRecords lineageId cutoff measuredAt) outcome)
    (hmore : (s.lineageRecords lineageId cutoff measuredAt).length <
        (s'.lineageRecords lineageId cutoff measuredAt).length ∨
      ∃ outcome, countOutcome (s.lineageRecords lineageId cutoff measuredAt) outcome <
        countOutcome (s'.lineageRecords lineageId cutoff measuredAt) outcome) :
    summary.total < summary'.total := by
  unfold Store.lineageSummary at h h'
  rw [hcutoff] at h h'
  obtain rfl := Except.ok.inj h
  obtain rfl := Except.ok.inj h'
  unfold LineageSummary.total
  dsimp only
  have h₁ := houtcome .canceled
  have h₂ := houtcome .expired
  have h₃ := houtcome .failed
  have h₄ := houtcome .prestartFailed
  have h₅ := houtcome .rejected
  have h₆ := houtcome .succeeded
  rcases hmore with hmore | ⟨outcome, hmore⟩
  · omega
  · cases outcome with
    | _ => omega

omit [UnicodeData] in
lemma countP_lt_countP {α : Type} {p q : α → Bool} {l : List α} {a : α}
    (hle : ∀ x ∈ l, p x = true → q x = true) (ha : a ∈ l) (hp : p a = false) (hq : q a = true) :
    l.countP p < l.countP q := by
  obtain ⟨l₁, l₂, rfl⟩ := List.append_of_mem ha
  have h₁ : l₁.countP p ≤ l₁.countP q :=
    List.countP_mono_left fun x hx => hle x (List.mem_append_left _ hx)
  have h₂ : l₂.countP p ≤ l₂.countP q :=
    List.countP_mono_left fun x hx => hle x (List.mem_append_right _ (List.mem_cons_of_mem _ hx))
  rw [List.countP_append, List.countP_append, List.countP_cons_of_pos hq,
    List.countP_cons_of_neg (by rw [hp]; exact Bool.false_ne_true)]
  omega

/-! ## Submissions and transitions -/

/-- The row that a submission adds to the jobs. -/
def StoreWrite.submission? : StoreWrite → Option JobRow
  | .sealPending job _ occurredAt submission _ =>
      some ⟨job, submission.getD ⟨0, 0, 0, occurredAt⟩⟩
  | .sealRejected job _ _ _ _ submission _ => some ⟨job, submission⟩
  | .sealWithLineageAdmission job _ _ _ _ submission _ _ => some ⟨job, submission⟩
  | _ => none

/-- Nothing of a job has changed. -/
structure Untouched (jobId : String) (s s' : Store) : Prop where
  agree : AgreeAt jobId s s'
  entries : entriesOf s' jobId = entriesOf s jobId

/-- What a submission or a transition does. -/
inductive Advances (w : StoreWrite) (s s' : Store) : Prop where
  | admits {row : JobRow} {record : JobRecord} (hrow : w.submission? = some row)
      (hevent : w.event? = none) (hnone : s.jobs.find? row.job.jobId = none)
      (hjobs : s'.jobs.rows = s.jobs.rows ++ [row])
      (hrecord : s'.records.find? row.job.jobId = some record)
      (hrest : ∀ jobId, jobId ≠ row.job.jobId → Untouched jobId s s')
  | moves {event : TransitionEvent} {current updated : JobRecord} (hrow : w.submission? = none)
      (hevent : w.event? = some event) (hjobs : s'.jobs = s.jobs)
      (hcurrent : s.records.find? event.jobId = some current)
      (happly : applyTransition current event = .ok updated)
      (hrecord : s'.records.find? event.jobId = some updated)
      (hrest : ∀ jobId, jobId ≠ event.jobId → Untouched jobId s s')

section advances

variable {s s₁ s₂ s' : Store} {jobId : String}

namespace Untouched

lemma refl (s : Store) : Untouched jobId s s := ⟨.refl s, rfl⟩

lemma trans (h : Untouched jobId s s₁) (h' : Untouched jobId s₁ s') : Untouched jobId s s' :=
  ⟨h.agree.trans h'.agree, h'.entries.trans h.entries⟩

lemma admits {job : SealedJob} {submission : SubmissionMetadata} {pending : JobRecord}
    {eventId occurredAt : String} (hinit : initialRecord job eventId occurredAt = .ok pending)
    (h : Store.Admits s s' job submission pending) (hne : jobId ≠ job.jobId) :
    Untouched jobId s s' := by
  refine ⟨.admits hinit h hne, ?_⟩
  obtain ⟨rfl, -⟩ := initialRecord_ok.mp hinit
  obtain ⟨-, s₀, hjob, hrecord⟩ := h
  obtain ⟨jobs, -, -, rfl⟩ := insertJob_ok.mp hjob
  obtain ⟨records, -, -, -, rfl⟩ := (insertRecordAndInitialLedger_ok ⟨rfl, rfl⟩).mp hrecord
  exact LedgerInv.entriesOf_append_ne s.ledger (initialEntry _ _) (Ne.symm hne)

lemma compareAndAppend {event : TransitionEvent} {updated : JobRecord}
    (h : Connection.compareAndAppend event s = (.ok updated, s')) (hne : jobId ≠ event.jobId) :
    Untouched jobId s s' := by
  refine ⟨.compareAndAppend h hne, ?_⟩
  have hid := compareAndAppend_jobId h
  obtain ⟨current, -, happly, -, -, rfl⟩ := compareAndAppend_ok.mp h
  refine LedgerInv.entriesOf_append_ne s.ledger (transitionEntry current updated event _) ?_
  exact fun heq => hne (heq.symm.trans hid)

lemma insertRaw {raw : RawReceiptArtifact} (h : Connection.insertRaw raw s = (.ok (), s'))
    (hne : jobId ≠ raw.reference.jobId) : Untouched jobId s s' := by
  refine ⟨.insertRaw h hne, ?_⟩
  obtain ⟨rawReceipts, -, -, rfl⟩ := insertRaw_ok.mp h
  rfl

lemma insertReceipt {artifact : ReceiptArtifact}
    (h : Connection.insertReceipt artifact s = (.ok (), s')) (hne : jobId ≠ artifact.jobId) :
    Untouched jobId s s' := by
  refine ⟨.insertReceipt h hne, ?_⟩
  obtain ⟨receipts, pointers, -, -, -, rfl⟩ := insertReceipt_ok.mp h
  rfl

end Untouched

/-- A job is admitted. -/
lemma Advances.of_admits {w : StoreWrite} {job : SealedJob} {submission : SubmissionMetadata}
    {pending : JobRecord} {eventId occurredAt : String} (hrow : w.submission? = some ⟨job, submission⟩)
    (hevent : w.event? = none) (hinit : initialRecord job eventId occurredAt = .ok pending)
    (h : Store.Admits s s' job submission pending) : Advances w s s' := by
  obtain ⟨-, hrecord, -⟩ := RecordMoves.admits hinit h
  refine .admits hrow hevent h.1 ?_ hrecord fun jobId hne => .admits hinit h hne
  obtain ⟨rfl, -⟩ := initialRecord_ok.mp hinit
  obtain ⟨-, s₀, hjob, hins⟩ := h
  obtain ⟨jobs, -, hinsert, rfl⟩ := insertJob_ok.mp hjob
  obtain ⟨records, -, -, -, rfl⟩ := (insertRecordAndInitialLedger_ok ⟨rfl, rfl⟩).mp hins
  exact Table.rows_insert? hinsert

/-- A job is admitted and closed at once. -/
lemma Advances.of_closes {w : StoreWrite} {job : SealedJob} {submission : SubmissionMetadata}
    {pending closed : JobRecord} {eventId occurredAt : String} {event : TransitionEvent}
    {notice : ReceiptArtifact} (hrow : w.submission? = some ⟨job, submission⟩)
    (hevent : w.event? = none) (hinit : initialRecord job eventId occurredAt = .ok pending)
    (h : Store.Admits s s₁ job submission pending) (hid : event.jobId = job.jobId)
    (hnotice : notice.jobId = job.jobId)
    (happend : Connection.compareAndAppend event s₁ = (.ok closed, s₂))
    (hins : Connection.insertReceipt notice s₂ = (.ok (), s')) : Advances w s s' := by
  obtain ⟨-, hrecord⟩ := @RecordMoves.closes _ _ _ _ none _ _ _ _ _ _ _ _ _ hinit h hid happend hins
  have hjobs : s'.jobs = s₁.jobs := by
    obtain ⟨current, -, -, -, -, rfl⟩ := compareAndAppend_ok.mp happend
    obtain ⟨receipts, pointers, -, -, -, rfl⟩ := insertReceipt_ok.mp hins
    rfl
  cases Advances.of_admits hrow hevent hinit h with
  | moves hnot => rw [hrow] at hnot; cases hnot
  | admits hrow' _ hnone hrows hpending hrest =>
      rw [hrow] at hrow'
      cases hrow'
      refine .admits hrow hevent hnone (by rw [hjobs]; exact hrows) hrecord fun jobId hne => ?_
      have hmove := (hrest jobId hne).trans (.compareAndAppend happend (by rwa [hid]))
      exact hmove.trans (.insertReceipt hins (by rwa [hnotice]))

/-- An execution is finalized. -/
lemma Advances.of_finalize {w : StoreWrite} {event : TransitionEvent} {raw : RawReceiptArtifact}
    {receipt : ReceiptArtifact} {record : JobRecord} (hrow : w.submission? = none)
    (hevent : w.event? = some event)
    (h : Store.finalizeClaimedExecution event raw receipt s = (.ok record, s')) :
    Advances w s s' := by
  have hjobs := jobs_finalize h
  obtain ⟨-, ⟨hraw, -, hreceipt, -⟩, job, s₁, s₂, -, -, hinsRaw, happend, -, hins⟩ :=
    Store.finalizeClaimedExecution_ok.mp h
  have hfind := find?_of_compareAndAppend happend event.jobId
  rw [if_pos rfl] at hfind
  have hrest : ∀ jobId, jobId ≠ event.jobId → Untouched jobId s s' := by
    intro jobId hne
    have hmove := (Untouched.insertRaw hinsRaw (by rwa [← hraw])).trans
      (.compareAndAppend happend hne)
    exact hmove.trans (.insertReceipt hins (by rwa [hreceipt, ← hraw]))
  obtain ⟨rawReceipts, -, -, rfl⟩ := insertRaw_ok.mp hinsRaw
  obtain ⟨current, hcurrent, happly, -⟩ := compareAndAppend_ok.mp happend
  obtain ⟨receipts, pointers, -, -, -, rfl⟩ := insertReceipt_ok.mp hins
  exact .moves hrow hevent hjobs hcurrent happly hfind hrest

/-- **What a submission or a transition does.** -/
theorem advances_run (w : StoreWrite) (r : w.Res)
    (hw : w.submission?.isSome = true ∨ w.event?.isSome = true) (hrun : w.run s = (.ok r, s')) :
    Advances w s s' := by
  cases w with
  | sealPending job eventId occurredAt submission limits =>
      obtain ⟨-, hinit, hadmits⟩ := Store.sealPending_ok hrun
      exact .of_admits rfl rfl hinit hadmits
  | sealRejected job pendingEventId pendingOccurredAt closeEvent notice submission limits =>
      obtain ⟨-, -, -, -, hnotice, hid, pending, s₁, closed, s₂, hinit, hadmits, happend, -, hins⟩ :=
        Store.sealRejected_ok hrun
      exact .of_closes rfl rfl hinit hadmits hid hnotice happend hins
  | sealWithLineageAdmission job pendingEventId pendingOccurredAt circuitEvent circuitNotice
      submission limits failurePolicy =>
      obtain ⟨-, -, pending, s₁, hinit, hadmits, hcases⟩ := Store.sealWithLineageAdmission_ok hrun
      rcases hcases with ⟨-, -, rfl⟩ | ⟨-, -, hid, -, hnotice, s₂, happend, -, hins⟩
      · exact .of_admits rfl rfl hinit hadmits
      · exact .of_closes rfl rfl hinit hadmits hid hnotice happend hins
  | compareAndAppend event =>
      have happend := Tx.transaction_ok.mp hrun
      have hfind := find?_of_compareAndAppend happend event.jobId
      rw [if_pos rfl] at hfind
      obtain ⟨current, hcurrent, happly, -, -, rfl⟩ := compareAndAppend_ok.mp happend
      exact .moves rfl rfl rfl hcurrent happly hfind fun jobId hne => .compareAndAppend happend hne
  | completeClaimedExecution event raw receipt =>
      exact .of_finalize rfl rfl (Store.completeClaimedExecution_ok.mp hrun).2.2
  | markClaimedExecutionUnknown event raw receipt =>
      exact .of_finalize rfl rfl (Store.markClaimedExecutionUnknown_ok.mp hrun).2.2
  | claimWithApproval ceremony credential verified approval claimEvent =>
      obtain ⟨hcontract, -, -, -, s₁, s₂, s₃, rfl, rfl, hins, happend⟩ :=
        Store.claimWithApproval_ok hrun
      obtain ⟨approvals, -, -, rfl⟩ := (insertApproval_ok hcontract.userVerified).mp hins
      have hfind := find?_of_compareAndAppend happend claimEvent.jobId
      rw [if_pos rfl] at hfind
      have hrest : ∀ jobId, jobId ≠ claimEvent.jobId → Untouched jobId s s' := by
        intro jobId hne
        obtain ⟨hagree, hentries⟩ := Untouched.compareAndAppend happend hne
        exact ⟨⟨hagree.records, hagree.raws, hagree.pointers, hagree.jobs, hagree.receipts⟩, hentries⟩
      obtain ⟨current, hcurrent, happly, -, -, rfl⟩ := compareAndAppend_ok.mp happend
      exact .moves rfl rfl rfl hcurrent happly hfind hrest
  | _ => simp [StoreWrite.submission?, StoreWrite.event?] at hw

end advances

/-! ## The jobs of a window -/

/-- The job belongs to the lineage, and was received in the window. -/
def InWindow (policy : LineageFailurePolicy) (lineageId measuredAt : String) (row : JobRow) : Prop :=
  row.job.lineageId = lineageId ∧ ∃ cutoff,
    secondsBefore measuredAt policy.windowSeconds = .ok cutoff ∧
      cutoff ≤ row.submission.brokerReceivedAt ∧ row.submission.brokerReceivedAt ≤ measuredAt

/-- The call neither adds a job to the window nor gives an outcome to one of its jobs. -/
def StoreWrite.KeepsWindow (policy : LineageFailurePolicy) (lineageId measuredAt : String)
    (s : Store) (w : StoreWrite) : Prop :=
  (∀ row ∈ w.submission?, ¬ InWindow policy lineageId measuredAt row) ∧
    ∀ event ∈ w.event?, event.outcome ≠ none → ∀ row, s.jobs.find? event.jobId = some row →
      ¬ InWindow policy lineageId measuredAt row

/-- The summary counts more than before. -/
def SummaryGrows (policy : LineageFailurePolicy) (lineageId measuredAt : String) (s s' : Store) :
    Prop :=
  ∃ summary summary', s.lineageSummary lineageId measuredAt policy = .ok summary ∧
    s'.lineageSummary lineageId measuredAt policy = .ok summary' ∧ summary.total < summary'.total

section window

variable {policy : LineageFailurePolicy} {lineageId measuredAt cutoff : String} {s s' : Store}

omit [UnicodeData] in
lemma SummaryGrows.of_cutoff (hcutoff : secondsBefore measuredAt policy.windowSeconds = .ok cutoff)
    (hlength : (s.lineageRecords lineageId cutoff measuredAt).length ≤
      (s'.lineageRecords lineageId cutoff measuredAt).length)
    (houtcome : ∀ outcome, countOutcome (s.lineageRecords lineageId cutoff measuredAt) outcome ≤
      countOutcome (s'.lineageRecords lineageId cutoff measuredAt) outcome)
    (hmore : (s.lineageRecords lineageId cutoff measuredAt).length <
        (s'.lineageRecords lineageId cutoff measuredAt).length ∨
      ∃ outcome, countOutcome (s.lineageRecords lineageId cutoff measuredAt) outcome <
        countOutcome (s'.lineageRecords lineageId cutoff measuredAt) outcome) :
    SummaryGrows policy lineageId measuredAt s s' := by
  have hsome : ∀ t : Store, ∃ summary, t.lineageSummary lineageId measuredAt policy = .ok summary := by
    intro t
    unfold Store.lineageSummary
    rw [hcutoff]
    exact ⟨_, rfl⟩
  obtain ⟨summary, h⟩ := hsome s
  obtain ⟨summary', h'⟩ := hsome s'
  exact ⟨summary, summary', h, h', total_lt_total hcutoff h h' hlength houtcome hmore⟩

omit [UnicodeData] in
lemma inWindow_iff (hcutoff : secondsBefore measuredAt policy.windowSeconds = .ok cutoff)
    (row : JobRow) : InWindow policy lineageId measuredAt row ↔
      (row.job.lineageId = lineageId && decide (cutoff ≤ row.submission.brokerReceivedAt) &&
        decide (row.submission.brokerReceivedAt ≤ measuredAt)) = true := by
  simp only [Bool.and_eq_true, decide_eq_true_eq]
  constructor
  · rintro ⟨hlineage, cutoff', hcutoff', hlow, hhigh⟩
    rw [hcutoff] at hcutoff'
    cases hcutoff'
    exact ⟨⟨hlineage, hlow⟩, hhigh⟩
  · rintro ⟨⟨hlineage, hlow⟩, hhigh⟩
    exact ⟨hlineage, cutoff, hcutoff, hlow, hhigh⟩

/-- A submission adds its record to the windows it belongs to. -/
lemma lineageRecords_admits (lineageId : String) {row : JobRow} {record : JobRecord}
    (hcutoff : secondsBefore measuredAt policy.windowSeconds = .ok cutoff)
    (hnone : s.jobs.find? row.job.jobId = none) (hjobs : s'.jobs.rows = s.jobs.rows ++ [row])
    (hrecord : s'.records.find? row.job.jobId = some record)
    (hrest : ∀ jobId, jobId ≠ row.job.jobId → Untouched jobId s s') :
    ∃ new, s'.lineageRecords lineageId cutoff measuredAt =
        s.lineageRecords lineageId cutoff measuredAt ++ new ∧
      (InWindow policy lineageId measuredAt row → new.length = 1) ∧
      (¬ InWindow policy lineageId measuredAt row → new = []) := by
  have hold : ∀ rows : List JobRow, (∀ old ∈ rows, old ∈ s.jobs.rows) →
      rows.filterMap (fun old => s'.records.find? old.job.jobId) =
        rows.filterMap (fun old => s.records.find? old.job.jobId) := by
    intro rows hrows
    apply List.filterMap_congr
    intro old hmem
    have hne : old.job.jobId ≠ row.job.jobId := by
      intro heq
      have hfind := Table.find?_of_mem (hrows old hmem)
      rw [heq, hnone] at hfind
      cases hfind
    exact (hrest _ hne).agree.records
  unfold Store.lineageRecords
  rw [hjobs, List.filter_append, List.filterMap_append, hold _ fun old hmem =>
    (List.mem_filter.mp hmem).1]
  refine ⟨_, rfl, fun hin => ?_, fun hout => ?_⟩
  · rw [inWindow_iff hcutoff] at hin
    rw [List.filter_singleton, hin]
    simp [hrecord]
  · rw [inWindow_iff hcutoff, Bool.not_eq_true] at hout
    rw [List.filter_singleton, hout]
    rfl

/-- A transition replaces the record of its job. -/
lemma lineageRecords_moves (lineageId cutoff measuredAt : String) {event : TransitionEvent}
    {current updated : JobRecord}
    (hjobs : s'.jobs = s.jobs) (hcurrent : s.records.find? event.jobId = some current)
    (hrecord : s'.records.find? event.jobId = some updated)
    (hrest : ∀ jobId, jobId ≠ event.jobId → Untouched jobId s s') :
    s'.lineageRecords lineageId cutoff measuredAt =
      (s.lineageRecords lineageId cutoff measuredAt).map
        (fun r => if r.jobId = event.jobId then updated else r) := by
  unfold Store.lineageRecords
  rw [hjobs, List.map_filterMap]
  apply List.filterMap_congr
  intro row _
  by_cases hjob : row.job.jobId = event.jobId
  · have hkey : current.jobId = event.jobId := Table.key_of_find? hcurrent
    rw [hjob, hrecord, hcurrent, Option.map_some, if_pos hkey]
  · rw [(hrest _ hjob).agree.records]
    cases hfind : s.records.find? row.job.jobId with
    | none => rfl
    | some r =>
        have hkey : r.jobId = row.job.jobId := Table.key_of_find? hfind
        rw [Option.map_some, if_neg (by rwa [hkey])]

omit [UnicodeData] in
/-- A record that moves had no outcome. -/
lemma outcome_none_of_transition {current updated : JobRecord} {event : TransitionEvent}
    (h : applyTransition current event = .ok updated) : current.terminalOutcome = none := by
  obtain ⟨hchecked, hmoves, -⟩ := applyTransition_ok.mp h
  cases hmoves with
  | claim _ hs => exact (hchecked.valid.pending hs).2.1
  | close _ hs => exact (hchecked.valid.pending hs).2.1
  | complete _ hs => exact (hchecked.valid.running hs).2.1
  | mark _ hs => exact (hchecked.valid.running hs).2.1
  | reconcile _ hs => exact (hchecked.valid.unknown hs).2.1

/-- A record of the window with the id of a transition is the one that moves. -/
lemma eq_current_of_mem {event : TransitionEvent} {current r : JobRecord}
    (hcutoff : secondsBefore measuredAt policy.windowSeconds = .ok cutoff)
    (hcurrent : s.records.find? event.jobId = some current)
    (hr : r ∈ s.lineageRecords lineageId cutoff measuredAt) (hid : r.jobId = event.jobId) :
    r = current ∧ ∃ row, s.jobs.find? event.jobId = some row ∧
      InWindow policy lineageId measuredAt row := by
  obtain ⟨row, hrow, hfind⟩ := List.mem_filterMap.mp hr
  obtain ⟨hmem, hin⟩ := List.mem_filter.mp hrow
  have hkey : r.jobId = row.job.jobId := Table.key_of_find? hfind
  have hjob : row.job.jobId = event.jobId := hkey.symm.trans hid
  rw [hjob, hcurrent] at hfind
  refine ⟨(Option.some.inj hfind).symm, row, ?_, (inWindow_iff hcutoff row).mpr hin⟩
  rw [← hjob]
  exact Table.find?_of_mem hmem

/-- A submission that belongs to the window is counted; another is not. -/
lemma summary_admits (policy : LineageFailurePolicy) (lineageId measuredAt : String) {row : JobRow}
    {record : JobRecord}
    (hnone : s.jobs.find? row.job.jobId = none) (hjobs : s'.jobs.rows = s.jobs.rows ++ [row])
    (hrecord : s'.records.find? row.job.jobId = some record)
    (hrest : ∀ jobId, jobId ≠ row.job.jobId → Untouched jobId s s') :
    (¬ InWindow policy lineageId measuredAt row → s'.lineageSummary lineageId measuredAt policy =
        s.lineageSummary lineageId measuredAt policy) ∧
      (InWindow policy lineageId measuredAt row →
        SummaryGrows policy lineageId measuredAt s s') := by
  constructor
  · intro hout
    apply lineageSummary_congr
    intro cutoff hcutoff
    obtain ⟨new, hnew, -, hempty⟩ := lineageRecords_admits lineageId hcutoff hnone hjobs
      hrecord hrest
    rw [hnew, hempty hout, List.append_nil]
  · intro hin
    obtain ⟨cutoff, hcutoff, -⟩ := hin.2
    obtain ⟨new, hnew, hone, -⟩ := lineageRecords_admits lineageId hcutoff hnone hjobs
      hrecord hrest
    have hlength := hone hin
    refine .of_cutoff hcutoff ?_ (fun outcome => ?_) (.inl ?_)
    · rw [hnew, List.length_append]
      omega
    · rw [hnew]
      unfold countOutcome
      rw [List.countP_append]
      omega
    · rw [hnew, List.length_append]
      omega

section moves

variable {event : TransitionEvent} {current updated : JobRecord}

/-- A transition shows in the summary only where it gives an outcome to a job of the window. -/
lemma summary_moves_eq (hjobs : s'.jobs = s.jobs)
    (hcurrent : s.records.find? event.jobId = some current)
    (happly : applyTransition current event = .ok updated)
    (hrecord : s'.records.find? event.jobId = some updated)
    (hrest : ∀ jobId, jobId ≠ event.jobId → Untouched jobId s s')
    (hkeeps : event.outcome ≠ none → ∀ row, s.jobs.find? event.jobId = some row →
      ¬ InWindow policy lineageId measuredAt row) :
    s'.lineageSummary lineageId measuredAt policy = s.lineageSummary lineageId measuredAt policy := by
  have hnone := outcome_none_of_transition happly
  obtain ⟨houtcome, -⟩ := carried_of_transition happly
  apply lineageSummary_congr
  intro cutoff hcutoff
  rw [lineageRecords_moves _ _ _ hjobs hcurrent hrecord hrest, List.map_map]
  apply List.map_congr_left
  intro r hr
  change (if r.jobId = event.jobId then updated else r).ended = r.ended
  split_ifs with hid
  · obtain ⟨rfl, row, hfind, hin⟩ := eq_current_of_mem hcutoff hcurrent hr hid
    have hopen : event.outcome = none := by
      by_contra hsome
      exact hkeeps hsome row hfind hin
    unfold JobRecord.ended
    rw [houtcome, hopen, hnone]
    rfl
  · rfl

/-- The outcome of a job of the window is counted, and the others are counted as before. -/
lemma summary_moves_grows {outcome : TerminalOutcome} {row : JobRow} (hjobs : s'.jobs = s.jobs)
    (hcurrent : s.records.find? event.jobId = some current)
    (happly : applyTransition current event = .ok updated)
    (hrecord : s'.records.find? event.jobId = some updated)
    (hrest : ∀ jobId, jobId ≠ event.jobId → Untouched jobId s s')
    (houtcome : event.outcome = some outcome) (hfind : s.jobs.find? event.jobId = some row)
    (hin : InWindow policy lineageId measuredAt row) :
    SummaryGrows policy lineageId measuredAt s s' := by
  have hnone := outcome_none_of_transition happly
  obtain ⟨hcarried, -⟩ := carried_of_transition happly
  obtain ⟨cutoff, hcutoff, -⟩ := hin.2
  have hmoved := lineageRecords_moves lineageId cutoff measuredAt hjobs hcurrent hrecord hrest
  have hmem : current ∈ s.lineageRecords lineageId cutoff measuredAt := by
    refine List.mem_filterMap.mpr ⟨row, List.mem_filter.mpr ⟨Table.mem_of_find? hfind,
      (inWindow_iff hcutoff row).mp hin⟩, ?_⟩
    have hkey := Table.key_of_find? hfind
    exact (congrArg s.records.find? hkey).trans hcurrent
  have hkeeps : ∀ (o : TerminalOutcome), ∀ r ∈ s.lineageRecords lineageId cutoff measuredAt,
      decide (r.terminalOutcome = some o) = true →
        decide ((if r.jobId = event.jobId then updated else r).terminalOutcome = some o) = true := by
    intro o r hr ho
    split_ifs with hid
    · obtain ⟨rfl, -⟩ := eq_current_of_mem hcutoff hcurrent hr hid
      rw [decide_eq_true_eq, hnone] at ho
      cases ho
    · exact ho
  refine .of_cutoff hcutoff ?_ (fun o => ?_) (.inr ⟨outcome, ?_⟩)
  · rw [hmoved, List.length_map]
  · rw [hmoved]
    unfold countOutcome
    rw [List.countP_map]
    exact List.countP_mono_left (hkeeps o)
  · rw [hmoved]
    unfold countOutcome
    rw [List.countP_map]
    refine countP_lt_countP (hkeeps outcome) hmem ?_ ?_
    · rw [hnone]
      rfl
    · have hkey : current.jobId = event.jobId := Table.key_of_find? hcurrent
      change decide ((if current.jobId = event.jobId then updated else current).terminalOutcome =
        some outcome) = true
      rw [if_pos hkey, hcarried, houtcome]
      exact decide_eq_true rfl

end moves

/-- **One call.**  It leaves the summary as it is, or adds to it. -/
theorem summary_step {w : StoreWrite} (h : Advances w s s') :
    (w.KeepsWindow policy lineageId measuredAt s →
        s'.lineageSummary lineageId measuredAt policy =
          s.lineageSummary lineageId measuredAt policy) ∧
      (¬ w.KeepsWindow policy lineageId measuredAt s →
        SummaryGrows policy lineageId measuredAt s s') := by
  cases h with
  | @admits row record hrow hevent hnone hjobs hrecord hrest =>
      have hadmits := summary_admits policy lineageId measuredAt hnone hjobs hrecord hrest
      unfold StoreWrite.KeepsWindow
      rw [hrow, hevent]
      refine ⟨fun hkeeps => hadmits.1 (hkeeps.1 row rfl), fun hnot => hadmits.2 ?_⟩
      by_contra hout
      refine hnot ⟨fun row' hrow' => ?_, nofun⟩
      cases hrow'
      exact hout
  | @moves event current updated hrow hevent hjobs hcurrent happly hrecord hrest =>
      unfold StoreWrite.KeepsWindow
      rw [hrow, hevent]
      refine ⟨fun hkeeps => summary_moves_eq hjobs hcurrent happly hrecord hrest
        (hkeeps.2 event rfl), fun hnot => ?_⟩
      by_contra hsame
      refine hnot ⟨nofun, fun event' hevent' hsome row hfind hin => ?_⟩
      cases hevent'
      obtain ⟨outcome, houtcome⟩ := Option.ne_none_iff_exists'.mp hsome
      exact hsame (summary_moves_grows hjobs hcurrent happly hrecord hrest houtcome hfind hin)

end window

/-! ## Whole runs -/

/-- An accepted submission or transition at a time that is not before the given one.  Times that do
not decrease are of this kind. -/
def StoreWrite.Later (measuredAt : String) (s : Store) (w : StoreWrite) : Prop :=
  (w.submission?.isSome = true ∨ w.event?.isSome = true) ∧ (∃ r s', w.run s = (.ok r, s')) ∧
    (∀ row ∈ w.submission?, measuredAt ≤ row.submission.brokerReceivedAt) ∧
    ∀ event ∈ w.event?, measuredAt ≤ event.occurredAt

section runs

variable {policy : LineageFailurePolicy} {lineageId measuredAt jobId : String} {s s' : Store}

lemma advances_later {w : StoreWrite} {t : Store} (hw : w.Later measuredAt s)
    (hstep : storeStep w s = some t) : Advances w s t := by
  obtain ⟨hkind, ⟨r, s', hrun⟩, -⟩ := hw
  obtain rfl : w.after s = t := Option.some.inj hstep
  rw [StoreWrite.after_of_ok hrun]
  exact advances_run w r hkind hrun

/-- **Along a run**, either every call keeps the window and the summary stays the same, or the
summary has grown. -/
theorem summary_run (policy : LineageFailurePolicy) (lineageId : String)
    (h : Reaches storeStep (fun t w => w.Later measuredAt t) s s') :
    (Reaches storeStep (fun t w => w.Later measuredAt t ∧
        w.KeepsWindow policy lineageId measuredAt t) s s' ∧
      s'.lineageSummary lineageId measuredAt policy =
        s.lineageSummary lineageId measuredAt policy) ∨
      SummaryGrows policy lineageId measuredAt s s' := by
  induction h with
  | refl => exact .inl ⟨.refl, rfl⟩
  | @tail t u w _ hlater hstep ih =>
      obtain ⟨hsame, hgrows⟩ := @summary_step _ policy lineageId measuredAt _ _ _
        (advances_later hlater hstep)
      by_cases hkeeps : w.KeepsWindow policy lineageId measuredAt t
      · have heq := hsame hkeeps
        rcases ih with ⟨hreach, hsum⟩ | ⟨a, b, ha, hb, hlt⟩
        · exact .inl ⟨hreach.tail ⟨hlater, hkeeps⟩ hstep, heq.trans hsum⟩
        · exact .inr ⟨a, b, ha, heq.trans hb, hlt⟩
      · obtain ⟨b', c, hb', hc, hlt'⟩ := hgrows hkeeps
        rcases ih with ⟨-, hsum⟩ | ⟨a, b, ha, hb, hlt⟩
        · exact .inr ⟨b', c, hsum.symm.trans hb', hc, hlt'⟩
        · rw [hb] at hb'
          cases hb'
          exact .inr ⟨a, c, ha, hc, hlt.trans hlt'⟩

/-- Nothing of a job that has ended changes. -/
theorem untouched_run {row : JobRow} {record : JobRecord}
    (hrow : s.jobs.find? jobId = some row) (hrecord : s.records.find? jobId = some record)
    (hterminal : record.state = .terminal)
    (h : Reaches storeStep (fun t w => w.Later measuredAt t) s s') : Untouched jobId s s' := by
  induction h with
  | refl => exact .refl s
  | @tail t u w _ hlater hstep ih =>
      refine ih.trans ?_
      have hrow' := ih.agree.jobs row hrow
      have hrecord' := ih.agree.records.trans hrecord
      cases advances_later hlater hstep with
      | admits hnew _ hnone _ _ hrest =>
          refine hrest jobId ?_
          rintro rfl
          rw [hnone] at hrow'
          cases hrow'
      | moves _ _ _ hcurrent happly _ hrest =>
          refine hrest jobId ?_
          rintro rfl
          rw [hrecord'] at hcurrent
          cases hcurrent
          obtain ⟨outcome, houtcome, -⟩ :=
            (applyTransition_ok.mp happly).1.valid.terminal hterminal
          rw [outcome_none_of_transition happly] at houtcome
          cases houtcome

end runs

/-! ## The public projection -/

section projection

variable {s s' : Store} {jobId : String} {env : Env} {p : Nat}

/-- The two systems have these stores. -/
def HaveStores (s s' : Store) (w w' : Sys) : Prop := w.store = s ∧ w'.store = s'

lemma agrees_read {q : StoreRead} (h : q.run s = q.run s') :
    Agrees (Sys.exec env p) (HaveStores s s') (Prog.read q) := by
  refine agrees_perform fun w w' hw => ⟨?_, hw⟩
  change q.run w.store = q.run w'.store
  rw [hw.1, hw.2]
  exact h

lemma eval_read_answer {q : StoreRead} {w : Sys} {a : q.Res}
    (h : (eval (Sys.exec env p) (Prog.read q) w).1 = .ok a) : q.run w.store = .ok a :=
  (congrArg Prod.fst (eval_perform (Sys.exec env p) (Op.read q) w)).symm.trans h

/-- The reads of a job that has not changed. -/
lemma Untouched.reads (h : Untouched jobId s s') (hpointed : s.Pointed) {row : JobRow}
    (hrow : s.jobs.find? jobId = some row) :
    s'.readSealed jobId = s.readSealed jobId ∧ s'.readRecord jobId = s.readRecord jobId ∧
      s'.readLedger jobId = s.readLedger jobId ∧
      ∀ jobDigest, s'.retrieve jobId jobDigest = s.retrieve jobId jobDigest := by
  refine ⟨?_, ?_, ?_, fun jobDigest => ?_⟩
  · unfold Store.readSealed
    rw [hrow, h.agree.jobs row hrow]
  · unfold Store.readRecord
    rw [h.agree.records]
  · have hentries := h.entries
    unfold entriesOf at hentries
    unfold Store.readLedger
    rw [hentries]
  · have hcurrent : s'.currentReceipt? jobId = s.currentReceipt? jobId := by
      unfold Store.currentReceipt?
      rw [h.agree.pointers]
      cases hpointer : s.receiptCurrent.find? jobId with
      | none => rfl
      | some pointer =>
          obtain ⟨receipt, hreceipt⟩ := hpointed jobId pointer hpointer
          change s'.receipts.find? pointer.receiptDigest = s.receipts.find? pointer.receiptDigest
          rw [hreceipt, h.agree.receipts _ receipt hreceipt]
    unfold Store.retrieve
    rw [hcurrent]

/-- **The public projection of a job that has not changed** depends on the summary of its lineage
only. -/
theorem agrees_publicProjection {cfg : BrokerConfig} {row : JobRow} {record : JobRecord}
    (h : Untouched jobId s s') (hpointed : s.Pointed) (hrow : s.jobs.find? jobId = some row)
    (hrecord : s.records.find? jobId = some record)
    (hsummary : s'.lineageSummary row.job.lineageId record.lastChangedAt cfg.lineageFailurePolicy =
      s.lineageSummary row.job.lineageId record.lastChangedAt cfg.lineageFailurePolicy) :
    Agrees (Sys.exec env p) (HaveStores s s') (cfg.publicProjection jobId) := by
  obtain ⟨hsealed, hread, hledger, hretrieve⟩ := h.reads hpointed hrow
  have hid := Table.key_of_find? hrow
  refine agrees_bind (agrees_read hsealed.symm) fun job w w' hw hjob => ?_
  have hjob' := eval_read_answer hjob
  rw [hw.1] at hjob'
  obtain ⟨row', hrow', -, rfl⟩ := readSealed_ok.mp hjob'
  rw [hrow] at hrow'
  cases hrow'
  refine agrees_bind ?_ fun receipt _ _ _ _ => ?_
  · refine agrees_tryCatch (agrees_bind (agrees_read ?_) fun _ _ _ _ _ => agrees_pure _) fun exc => ?_
    · change s.retrieve row.job.jobId row.job.jobDigest = s'.retrieve row.job.jobId row.job.jobDigest
      have hretrieve' := (hretrieve row.job.jobDigest).symm
      rw [← hid] at hretrieve'
      exact hretrieve'
    · split_ifs
      · exact agrees_pure _
      · exact agrees_throw _
  · refine agrees_bind (agrees_read hread.symm) fun record' w w' hw hrec => ?_
    have hrec' := eval_read_answer hrec
    rw [hw.1] at hrec'
    obtain ⟨hfound, -⟩ := readRecord_ok.mp hrec'
    rw [hrecord] at hfound
    cases hfound
    refine agrees_bind (agrees_bind (agrees_read hsummary.symm) fun _ _ _ _ _ => agrees_ofExcept _)
      fun status _ _ _ _ => ?_
    refine agrees_bind (agrees_read hledger.symm) fun entries _ _ _ _ => ?_
    exact agrees_bind (agrees_ofExcept _) fun history _ _ _ _ => agrees_ofExcept _

lemma Store.Pointed.finalize {event : TransitionEvent} {raw : RawReceiptArtifact}
    {receipt : ReceiptArtifact} {record : JobRecord} (hs : s.Pointed)
    (h : Store.finalizeClaimedExecution event raw receipt s = (.ok record, s')) : s'.Pointed := by
  obtain ⟨-, -, job, s₁, s₂, -, -, hraw, happend, -, hins⟩ := Store.finalizeClaimedExecution_ok.mp h
  have hsame := (SameReceipts.insertRaw hraw).trans (.compareAndAppend happend)
  exact (hs.of_tables hsame.receipts hsame.pointers).insertReceipt hins

/-- **No pointer dangles** in a reachable store. -/
theorem Store.Pointed.of_reachable (h : Reachable s) : s.Pointed := by
  refine ReachableBy.induction (P := Store.Pointed) h nofun fun w s r s' _ hs hrun => ?_
  cases w with
  | putIfAbsent job =>
      obtain ⟨jobs, -, -, rfl⟩ := insertJob_ok.mp (Store.putIfAbsent_ok hrun).2
      exact hs
  | createPending record =>
      obtain ⟨hvalid, hpending, -, -, hins⟩ := Store.createPending_ok hrun
      obtain ⟨-, houtcome, hreason⟩ := hvalid.pending hpending
      obtain ⟨records, -, -, -, rfl⟩ :=
        (insertRecordAndInitialLedger_ok ⟨houtcome, hreason⟩).mp hins
      exact hs
  | sealPending job eventId occurredAt submission limits =>
      obtain ⟨-, hinit, hadmits⟩ := Store.sealPending_ok hrun
      have hsame := SameReceipts.admits hinit hadmits
      exact hs.of_tables hsame.receipts hsame.pointers
  | sealRejected job pendingEventId pendingOccurredAt closeEvent notice submission limits =>
      obtain ⟨-, -, -, -, -, -, pending, s₁, closed, s₂, hinit, hadmits, happend, -, hins⟩ :=
        Store.sealRejected_ok hrun
      have hsame := (SameReceipts.admits hinit hadmits).trans (.compareAndAppend happend)
      exact (hs.of_tables hsame.receipts hsame.pointers).insertReceipt hins
  | sealWithLineageAdmission job pendingEventId pendingOccurredAt circuitEvent circuitNotice
      submission limits failurePolicy =>
      obtain ⟨-, -, pending, s₁, hinit, hadmits, hcases⟩ := Store.sealWithLineageAdmission_ok hrun
      have hsame := SameReceipts.admits hinit hadmits
      rcases hcases with ⟨-, -, rfl⟩ | ⟨-, -, -, -, -, s₂, happend, -, hins⟩
      · exact hs.of_tables hsame.receipts hsame.pointers
      · have hsame' := hsame.trans (.compareAndAppend happend)
        exact (hs.of_tables hsame'.receipts hsame'.pointers).insertReceipt hins
  | compareAndAppend event =>
      have hsame := SameReceipts.compareAndAppend (Tx.transaction_ok.mp hrun)
      exact hs.of_tables hsame.receipts hsame.pointers
  | putRawIfAbsent artifact =>
      have hsame := SameReceipts.insertRaw (Store.putRawIfAbsent_ok hrun)
      exact hs.of_tables hsame.receipts hsame.pointers
  | completeClaimedExecution event raw receipt =>
      exact hs.finalize (Store.completeClaimedExecution_ok.mp hrun).2.2
  | markClaimedExecutionUnknown event raw receipt =>
      exact hs.finalize (Store.markClaimedExecutionUnknown_ok.mp hrun).2.2
  | publishIfAbsent artifact => exact hs.insertReceipt (Store.publishIfAbsent_ok hrun)
  | quarantineIfAbsent record =>
      obtain ⟨s₁, quarantine, hins, rfl⟩ := Store.quarantineIfAbsent_ok hrun
      have hpointed : s₁.Pointed := hs.insertReceipt hins
      exact hpointed
  | createAuthBootstrap session =>
      obtain ⟨-, -, _, bootstraps, -, -, rfl⟩ := Store.createAuthBootstrap_ok hrun
      exact hs
  | issueRegistrationCeremony tokenDigest ceremony =>
      obtain ⟨ceremonies, -, -, rfl⟩ :=
        insertCeremony_ok.mp (Store.issueRegistrationCeremony_ok hrun).2
      exact hs
  | completeRegistration tokenDigest ceremonyId credential consumedAt =>
      obtain ⟨-, ceremony, bootstrap, s₁, s₂, -, -, -, -, -, -, -, hins, rfl, rfl⟩ :=
        Store.completeRegistration_ok hrun
      obtain ⟨credentials, -, -, rfl⟩ := insertCredential_ok.mp hins
      exact hs
  | issueApprovalCeremony ceremony =>
      obtain ⟨-, -, -, -, hins⟩ := Store.issueApprovalCeremony_ok hrun
      obtain ⟨ceremonies, -, -, rfl⟩ := insertCeremony_ok.mp hins
      exact hs
  | claimWithApproval ceremony credential verified approval claimEvent =>
      obtain ⟨hcontract, -, -, -, s₁, s₂, s₃, rfl, rfl, hins, happend⟩ :=
        Store.claimWithApproval_ok hrun
      obtain ⟨approvals, -, -, rfl⟩ := (insertApproval_ok hcontract.userVerified).mp hins
      obtain ⟨current, -, -, -, -, rfl⟩ := compareAndAppend_ok.mp happend
      exact hs

end projection

/-! ## The measurement of a job that has ended -/

/-- **A lineage measurement is immutable exactly when nothing happens in its window.**  Take a
reachable store with a job that has ended, and any further run of accepted submissions and
transitions that are not earlier than its last change.  The summary of its lineage, measured at that
change, and its public projection are the same in the end if and only if no call of the run added a
job to the window or gave an outcome to a job of it. -/
theorem lineage_summary_unchanged_iff {s s' : Store} {jobId : String} {row : JobRow}
    {record : JobRecord} {cfg : BrokerConfig} (hs : Reachable s)
    (hrow : s.jobs.find? jobId = some row) (hrecord : s.records.find? jobId = some record)
    (hterminal : record.state = .terminal)
    (hrun : Reaches storeStep (fun t w => w.Later record.lastChangedAt t) s s') :
    (s'.lineageSummary row.job.lineageId record.lastChangedAt cfg.lineageFailurePolicy =
        s.lineageSummary row.job.lineageId record.lastChangedAt cfg.lineageFailurePolicy ∧
      ∀ env p w w', w.store = s → w'.store = s' →
        (eval (Sys.exec env p) (cfg.publicProjection jobId) w').1 =
          (eval (Sys.exec env p) (cfg.publicProjection jobId) w).1) ↔
    Reaches storeStep (fun t w => w.Later record.lastChangedAt t ∧
      w.KeepsWindow cfg.lineageFailurePolicy row.job.lineageId record.lastChangedAt t) s s' := by
  constructor
  · rintro ⟨hsame, -⟩
    rcases summary_run cfg.lineageFailurePolicy row.job.lineageId hrun with ⟨hkeeps, -⟩ | ⟨a, b, ha, hb, hlt⟩
    · exact hkeeps
    · rw [ha, hb] at hsame
      cases hsame
      exact absurd hlt (lt_irrefl _)
  · intro hkeeps
    have hsame : s'.lineageSummary row.job.lineageId record.lastChangedAt cfg.lineageFailurePolicy =
        s.lineageSummary row.job.lineageId record.lastChangedAt cfg.lineageFailurePolicy := by
      refine Reaches.invariant (P := fun t => t.lineageSummary row.job.lineageId
        record.lastChangedAt cfg.lineageFailurePolicy = s.lineageSummary row.job.lineageId
          record.lastChangedAt cfg.lineageFailurePolicy) hkeeps rfl fun t u w ht hw hstep => ?_
      exact ((summary_step (advances_later hw.1 hstep)).1 hw.2).trans ht
    refine ⟨hsame, fun env p w w' hw hw' => ?_⟩
    have huntouched := untouched_run hrow hrecord hterminal hrun
    have hagrees := @agrees_publicProjection _ _ _ _ env p _ _ _ huntouched
      (Store.Pointed.of_reachable hs) hrow hrecord hsame
    exact (hagrees w w' ⟨hw, hw'⟩).1.symm

/-! ## Two jobs of one lineage -/

/-- A second request of the same lineage. -/
def laterManifest : Json := .obj [
  ("expected_pre_state", .obj [("digest", .null), ("kind", .str "none")]),
  ("job_id", .str "later"),
  ("operation_id", .str "nas.observe_groupware_runtime"),
  ("operation_version", .int 1),
  ("parameters", .obj [("slot", .str "a")]),
  ("registry_version", .str registryVersion),
  ("request", .obj [("lineage_id", .str "lineage"), ("reply_target", .str "reply"),
    ("request_id", .str "request"), ("submitted_at", .str "2026-01-01T00:00:00Z")]),
  ("review", .obj [("changes", .arr [.str "c"]),
    ("premises", .arr [.obj [("anchor", .null), ("basis", .str "unknown"), ("claim", .str "p"),
      ("falsifier", .str "f")]]),
    ("purpose", .str "p"), ("recovery", .arr [.str "r"]),
    ("risk_delta", .obj [("added", .arr []), ("baseline", .str "b"),
      ("maximum_consequence", .str "m"), ("removed", .arr [])]),
    ("targets", .arr [.str "t"])]),
  ("schema", .str manifestSchema)]

/-- The job that it seals. -/
def laterJob : SealedJob where
  jobId := "later"
  jobDigest := jobDigestOf laterManifest
  operationId := "nas.observe_groupware_runtime"
  operationVersion := 1
  requestId := "request"
  lineageId := "lineage"
  replyTarget := "reply"
  submittedAt := "2026-01-01T00:00:00Z"
  canonicalManifest := laterManifest

omit [UnicodeData] in
lemma seal_laterManifest :
    @sealTypedManifest UnicodeData.asciiOnly (Document.canonical laterManifest) = .ok laterJob := by
  have hlength : (canonicalManifestBytes laterManifest).length ≤ maxManifestBytes := by
    decide +kernel
  have hvalid : @validateManifest UnicodeData.asciiOnly laterManifest =
      .ok ⟨"later", "nas.observe_groupware_runtime", 1, "request", "lineage", "reply",
        "2026-01-01T00:00:00Z"⟩ := by decide
  exact @sealTypedManifest_canonical UnicodeData.asciiOnly _ _ hlength hvalid

omit [UnicodeData] in
lemma jobDigest_laterJob : sampleJob.jobDigest ≠ laterJob.jobDigest := by
  change jobDigestOf sampleManifest ≠ jobDigestOf laterManifest
  decide +kernel

/-- The first job is closed in the second in which it was received. -/
def sampleCloseEvent : TransitionEvent :=
  closeEvent sampleJob ("event-2", "2026-01-01T00:00:00Z") .canceled (some "canceled")

/-- The record of the first job when it is closed. -/
def sampleClosed : JobRecord :=
  updatedRecord samplePending sampleCloseEvent .terminal 0 (some .canceled) (some "canceled")

/-- The submission of the second job. -/
def laterSeal (occurredAt : String) : StoreWrite := .sealPending laterJob "event" occurredAt none {}

/-- The store holds the first job, closed. -/
structure Store.HoldsClosed (s : Store) : Prop where
  jobs : s.jobs.rows = [⟨sampleJob, ⟨0, 0, 0, "2026-01-01T00:00:00Z"⟩⟩]
  records : s.records.rows = [sampleClosed]
  ledger : s.ledger.map (·.jobId) = ["job", "job"]

omit [UnicodeData] in
/-- The first job is closed. -/
lemma closed_sample : ∃ s, @Reachable UnicodeData.asciiOnly s ∧ s.HoldsClosed := by
  let _ := UnicodeData.asciiOnly
  obtain ⟨s, hs, hholds⟩ := admitted_sample
  have hk := hholds.known (SystemInv.of_reachable hs) rfl
  have hclosed : sampleClosed.Valid := by
    refine ⟨hk.valid.jobId, hk.valid.jobDigest, .inl rfl, by decide, by decide, rfl,
      fun reason hreason => ?_⟩
    cases hreason
    decide
  have happly : applyTransition samplePending sampleCloseEvent = .ok sampleClosed :=
    applyTransition_ok.mpr ⟨⟨hk.valid, by decide, by decide, rfl, rfl, rfl,
      by decide, by decide⟩, .close rfl rfl .canceled rfl rfl "canceled" rfl rfl,
      hclosed⟩
  have happend : Connection.compareAndAppend sampleCloseEvent s =
      (.ok sampleClosed, appended s samplePending sampleClosed sampleCloseEvent) := by
    refine compareAndAppend_ok.mpr ⟨samplePending, hk.found, happly, ?_, ?_, rfl⟩
    · rw [hholds.ledger]
      intro e he _
      rw [List.mem_singleton.mp he]
      decide
    · rw [hholds.ledger]
      decide
  have hrun : (StoreWrite.compareAndAppend sampleCloseEvent).run s = (.ok sampleClosed, _) :=
    Tx.transaction_ok.mpr happend
  refine ⟨_, Reaches.tail (hs.mono fun _ _ _ => trivial) trivial
    (congrArg some (StoreWrite.after_of_ok hrun)), hholds.jobs, ?_, ?_⟩
  · change (updatedRecords s samplePending sampleClosed).rows = _
    unfold updatedRecords
    rw [Table.rows_updateWhere, hholds.records, List.map_singleton]
    exact congrArg (fun r => [r]) (if_pos (by simp [samplePending, sampleClosed, updatedRecord]))
  · change (s.ledger ++ [_]).map _ = _
    rw [hholds.ledger]
    rfl

omit [UnicodeData] in
lemma Store.HoldsClosed.found {s : Store} (h : s.HoldsClosed) :
    s.jobs.find? "job" = some ⟨sampleJob, ⟨0, 0, 0, "2026-01-01T00:00:00Z"⟩⟩ ∧
      s.records.find? "job" = some sampleClosed ∧ s.jobs.find? "later" = none ∧
      s.records.find? "later" = none := by
  refine ⟨?_, ?_, ?_, ?_⟩
  · rw [Table.find?_eq_some_iff, h.jobs]
    exact ⟨List.mem_singleton.mpr rfl, rfl⟩
  · rw [Table.find?_eq_some_iff, h.records]
    exact ⟨List.mem_singleton.mpr rfl, rfl⟩
  · rw [Table.find?_eq_none_iff, h.jobs]
    intro row hrow
    rw [List.mem_singleton.mp hrow]
    change "job" ≠ "later"
    decide
  · rw [Table.find?_eq_none_iff, h.records]
    intro row hrow
    rw [List.mem_singleton.mp hrow]
    change "job" ≠ "later"
    decide

omit [UnicodeData] in
/-- The second job is sealed. -/
lemma later_sample {s : Store} {occurredAt cutoff : String} :
    let _ := UnicodeData.asciiOnly
    s.HoldsClosed → isRealTimestamp occurredAt = true →
    validateSubmission ⟨0, 0, 0, occurredAt⟩ {} = .ok () →
    secondsBefore occurredAt 3600 = .ok cutoff →
    ∃ r s', (laterSeal occurredAt).run s = (.ok r, s') := by
  intro _ hholds htime hsubmission hcutoff
  obtain ⟨hjob, hrecord, hnoJob, hnoRecord⟩ := hholds.found
  have hverify : verifyJob laterJob = .ok () := verifyJob_ok.mpr seal_laterManifest
  have hvalid : (pendingRecord laterJob "event" occurredAt).Valid :=
    valid_pendingRecord (wellFormed_of_seal seal_laterManifest) (by decide) htime
  have hopen : openJobs s = [] := by
    unfold openJobs
    rw [hholds.jobs, List.filter_singleton]
    change (bif (s.records.find? "job").any _ then _ else _) = _
    rw [hrecord]
    rfl
  have hlimits : enforceSubmissionLimits laterJob ⟨0, 0, 0, occurredAt⟩ {} s = .ok () := by
    unfold enforceSubmissionLimits
    simp only [except_bind_ok, require_ok, exists_const]
    rw [hopen, hholds.jobs]
    refine ⟨Nat.succ_pos _, Nat.succ_pos _, cutoff, hcutoff,
      lt_of_le_of_lt List.countP_le_length ?_⟩
    exact (by decide : 1 < 32)
  obtain ⟨jobs, hjobs, -⟩ := Table.insert?_eq_some (t := s.jobs)
    (r := ⟨laterJob, ⟨0, 0, 0, occurredAt⟩⟩) hnoJob
  obtain ⟨records, hrecords, -⟩ := Table.insert?_eq_some (t := s.records)
    (r := pendingRecord laterJob "event" occurredAt) hnoRecord
  have hlen : s.ledger.length = 2 := by
    rw [← List.length_map (fun e : LedgerEntry => e.jobId), hholds.ledger]
    rfl
  refine ⟨_, _, sealPending_of_admits hverify hvalid hsubmission hlimits ⟨hnoJob,
    { s with jobs := jobs }, insertJob_ok.mpr ⟨jobs, ?_, hjobs, rfl⟩,
    (insertRecordAndInitialLedger_ok ⟨rfl, rfl⟩).mpr ⟨records, hrecords, ?_, ?_, rfl⟩⟩⟩
  · rw [hholds.jobs]
    intro row hrow
    rw [List.mem_singleton.mp hrow]
    exact jobDigest_laterJob
  · change s.ledger.length < maxRowId
    rw [hlen]
    decide
  · intro e he hid
    have hmem : e.jobId ∈ ["job", "job"] := by
      rw [← hholds.ledger]
      exact List.mem_map.mpr ⟨e, he, rfl⟩
    rw [hid] at hmem
    exact absurd hmem (by decide : "later" ∉ ["job", "job"])

omit [UnicodeData] in
/-- The second job is received one second later, and the measurement of the first one stands. -/
theorem lineage_summary_unchanged_sample :
    let _ := UnicodeData.asciiOnly
    ∃ s s' : Store, Reachable s ∧ s.records.find? "job" = some sampleClosed ∧
      s'.jobs.rows.length = 2 ∧
      s'.lineageSummary "lineage" sampleClosed.lastChangedAt {} =
        s.lineageSummary "lineage" sampleClosed.lastChangedAt {} := by
  intro _
  obtain ⟨s, hs, hholds⟩ := closed_sample
  obtain ⟨hjob, hrecord, -⟩ := hholds.found
  obtain ⟨r, s', hrun⟩ := @later_sample s "2026-01-01T00:00:01Z" "2025-12-31T23:00:01Z" hholds
    (by decide) (by decide) (by decide)
  have hlater : (laterSeal "2026-01-01T00:00:01Z").Later sampleClosed.lastChangedAt s := by
    refine ⟨.inl rfl, ⟨r, s', hrun⟩, fun row hrow => ?_, nofun⟩
    cases hrow
    decide
  have hkeeps : (laterSeal "2026-01-01T00:00:01Z").KeepsWindow {} "lineage"
      sampleClosed.lastChangedAt s := by
    refine ⟨fun row hrow hin => ?_, nofun⟩
    cases hrow
    obtain ⟨-, cutoff, -, -, hle⟩ := hin
    exact absurd hle (by decide)
  have hstep : storeStep (laterSeal "2026-01-01T00:00:01Z") s = some s' :=
    congrArg some (StoreWrite.after_of_ok hrun)
  have hiff := @lineage_summary_unchanged_iff _ s s' "job" _ _ sampleConfig hs hjob hrecord rfl
    (.tail .refl hlater hstep)
  refine ⟨s, s', hs, hrecord, ?_, (hiff.mpr (.tail .refl ⟨hlater, hkeeps⟩ hstep)).1⟩
  cases advances_run _ r (.inl rfl) hrun with
  | moves hnot => cases hnot
  | admits _ _ _ hjobs => rw [hjobs, hholds.jobs]; rfl

omit [UnicodeData] in
/-- **A measurement that changes**: the second job is received in the second in which the first one
ended. -/
theorem lineage_summary_changes :
    let _ := UnicodeData.asciiOnly
    ∃ (s s' : Store) (w : StoreWrite), Reachable s ∧ s.records.find? "job" = some sampleClosed ∧
      sampleClosed.state = .terminal ∧ w.Later sampleClosed.lastChangedAt s ∧
      storeStep w s = some s' ∧
      s'.lineageSummary "lineage" sampleClosed.lastChangedAt {} ≠
        s.lineageSummary "lineage" sampleClosed.lastChangedAt {} := by
  intro _
  obtain ⟨s, hs, hholds⟩ := closed_sample
  obtain ⟨hjob, hrecord, -⟩ := hholds.found
  obtain ⟨r, s', hrun⟩ := @later_sample s "2026-01-01T00:00:00Z" "2025-12-31T23:00:00Z" hholds
    (by decide) (by decide) (by decide)
  have hlater : (laterSeal "2026-01-01T00:00:00Z").Later sampleClosed.lastChangedAt s := by
    refine ⟨.inl rfl, ⟨r, s', hrun⟩, fun row hrow => ?_, nofun⟩
    cases hrow
    decide
  have hstep : storeStep (laterSeal "2026-01-01T00:00:00Z") s = some s' :=
    congrArg some (StoreWrite.after_of_ok hrun)
  have hin : InWindow {} "lineage" sampleClosed.lastChangedAt
      ⟨laterJob, ⟨0, 0, 0, "2026-01-01T00:00:00Z"⟩⟩ :=
    ⟨rfl, "2025-12-31T00:00:00Z", by decide, by decide, by decide⟩
  refine ⟨s, s', _, hs, hrecord, rfl, hlater, hstep, fun hsame => ?_⟩
  obtain ⟨a, b, ha, hb, hlt⟩ := (summary_step (advances_later hlater hstep)).2
    fun hkeeps => hkeeps.1 _ rfl hin
  rw [ha, hb] at hsame
  cases hsame
  exact lt_irrefl _ hlt

end AgentRuntimeOps.RootActions
