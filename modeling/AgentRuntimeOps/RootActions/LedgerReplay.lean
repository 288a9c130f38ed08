import AgentRuntimeOps.RootActions.Projection
import AgentRuntimeOps.RootActions.StoreOps
import AgentRuntimeOps.RootActions.AuthSpecs

/-!
# The ledger is a complete, replayable log

`LedgerInv` is the invariant that ties jobs, records and ledger together: the rows of a job in the
ledger form a chain of transitions that starts at its sealing and ends at its record (`Chain`).
The three steps of a transaction that touch these tables keep it (`ledgerInv_insertJob`,
`ledgerInv_insertRecord`, `ledgerInv_appended`), and every writing method is made of those.

A chain is what `history_projection` accepts (`historyProjection_of_chain`) and what replaying
with `initial_record` and `apply_transition` turns into the record (`replay_of_chain`), although
a row does not keep the outcome and the reason of its event but those of the record it led to:
along every edge the two are the same (`entryEvent_transitionEntry`).
-/

set_option linter.unusedSectionVars false

namespace AgentRuntimeOps.RootActions

open AgentRuntimeOps.Lib Connection

/-! ## Replaying -/

/-- One further row of a replay. -/
def replayStep (prior : JobRecord) (entry : LedgerEntry) : Except Exn JobRecord := do
  let event ← entryEvent prior entry
  applyTransition prior event

/-- Replay the rows of a job: `initial_record` on the first, `apply_transition` on the others. -/
def replay (job : SealedJob) : List LedgerEntry → Except Exn JobRecord
  | [] => .error (Exn.storageNotFound job.jobId)
  | first :: rest => do
    let record ← initialRecord job first.eventId first.occurredAt
    rest.foldlM replayStep record

/-- A record has the outcome and the reason of its last event. -/
lemma carried_of_transition {prior updated : JobRecord} {event : TransitionEvent}
    (h : applyTransition prior event = .ok updated) :
    updated.terminalOutcome = event.outcome ∧ updated.reasonCode = event.reasonCode := by
  obtain ⟨-, hmoves, -⟩ := applyTransition_ok.mp h
  cases hmoves with
  | claim _ _ _ ho hr hres => subst hres; exact ⟨ho.symm, hr.symm⟩
  | close _ _ _ ho _ _ hr hres => subst hres; exact ⟨ho.symm, hr.symm⟩
  | complete _ _ _ _ ho _ _ hr hres => subst hres; exact ⟨ho.symm, hr.symm⟩
  | mark _ _ _ ho _ hr hres => subst hres; exact ⟨ho.symm, hr.symm⟩
  | reconcile _ _ _ _ ho _ _ hr hres => subst hres; exact ⟨ho.symm, hr.symm⟩

/-- A row loses nothing: the event that `history_projection` derives from it is the event that
wrote it. -/
lemma entryEvent_transitionEntry {prior updated : JobRecord} {event : TransitionEvent}
    (h : applyTransition prior event = .ok updated) (sequence : Nat) :
    entryEvent prior (transitionEntry prior updated event sequence) = .ok event := by
  obtain ⟨hchecked, -⟩ := applyTransition_ok.mp h
  obtain ⟨hid, hdigest, -, -, -⟩ := identity_of_transition h
  have hkind : TransitionKind.ofValue? event.kind.value = some event.kind :=
    TransitionKind.ofValue?_value _
  have hcarried := carried_of_transition h
  have houtcome : outcomeOfText (updated.terminalOutcome.map (·.value)) = .ok event.outcome := by
    rw [hcarried.1]
    rcases event.outcome with _ | outcome
    · rfl
    · simp only [Option.map_some, outcomeOfText, except_bind_ok, orRaise_ok, except_pure_ok]
      exact ⟨outcome, TerminalOutcome.ofValue?_value outcome, rfl⟩
  unfold entryEvent
  simp only [except_bind_ok, orRaise_ok, except_pure_ok, transitionEntry]
  refine ⟨event.kind, hkind, event.outcome, houtcome, ?_⟩
  rw [hid, hdigest, hcarried.2, ← hchecked.jobId, ← hchecked.jobDigest, ← hchecked.revision]

/-! ## Chains of ledger rows -/

/-- The rows of one job form a chain of transitions that ends at `record`. -/
inductive Chain : List LedgerEntry → JobRecord → Prop where
  /-- The job was sealed. -/
  | initial {record : JobRecord} (sequence : Nat) (hpending : record.state = .pending)
      (hrevision : record.revision = 0) (hvalid : record.Valid) :
      Chain [initialEntry record sequence] record
  /-- The job moved once more, with an event id that none of its rows has. -/
  | append {entries : List LedgerEntry} {prior updated : JobRecord} {event : TransitionEvent}
      (sequence : Nat) (chain : Chain entries prior)
      (happly : applyTransition prior event = .ok updated)
      (hfresh : ∀ e ∈ entries, e.eventId ≠ event.eventId) :
      Chain (entries ++ [transitionEntry prior updated event sequence]) updated

namespace Chain

variable {entries : List LedgerEntry} {record : JobRecord}

lemma valid (h : Chain entries record) : record.Valid := by
  cases h with
  | initial _ _ _ hvalid => exact hvalid
  | append _ _ happly _ => exact (applyTransition_ok.mp happly).2.2

lemma ne_nil (h : Chain entries record) : entries ≠ [] := by
  cases h with
  | initial => simp
  | append => simp

/-- The revisions of a chain are `0, 1, 2, …`, and the record is at the last one. -/
lemma revisions (h : Chain entries record) :
    entries.map (·.recordRevision) = List.range entries.length ∧
      record.revision + 1 = entries.length := by
  induction h with
  | initial sequence hpending hrevision hvalid => exact ⟨rfl, by rw [hrevision]; rfl⟩
  | append sequence chain happly hfresh ih =>
      obtain ⟨-, -, hrev, -⟩ := identity_of_transition happly
      obtain ⟨ihmap, ihlen⟩ := ih
      rw [List.map_append, List.length_append, List.length_singleton, List.range_succ, ihmap]
      refine ⟨?_, by omega⟩
      rw [List.map_singleton]
      simp only [transitionEntry, hrev, ihlen]

/-- The event ids of a chain are pairwise distinct. -/
lemma eventIds_nodup (h : Chain entries record) : (entries.map (·.eventId)).Nodup := by
  induction h with
  | initial => simp
  | append sequence chain happly hfresh ih =>
      rw [List.map_append, List.nodup_append]
      refine ⟨ih, by simp, ?_⟩
      intro a ha b hb
      obtain ⟨e, he, rfl⟩ := List.mem_map.mp ha
      rw [List.map_singleton, List.mem_singleton] at hb
      subst hb
      exact hfresh e he

/-- The last event of the record is that of a row. -/
lemma lastEventId (h : Chain entries record) : ∃ e ∈ entries, e.eventId = record.lastEventId := by
  cases h with
  | initial => exact ⟨_, List.mem_singleton.mpr rfl, rfl⟩
  | append sequence chain happly hfresh =>
      refine ⟨_, List.mem_append_right _ (List.mem_singleton.mpr rfl), ?_⟩
      obtain ⟨-, -, -, hlast, -⟩ := identity_of_transition happly
      exact hlast.symm

/-- The last change of the record is its last row, and times never decrease along a chain. -/
lemma times (h : Chain entries record) :
    (entries.map (·.occurredAt)).Pairwise (· ≤ ·) ∧
      ∀ e ∈ entries, e.occurredAt ≤ record.lastChangedAt := by
  induction h with
  | initial => simp [initialEntry]
  | @append entries prior updated event sequence chain happly hfresh ih =>
      have htime := (applyTransition_ok.mp happly).1.time
      obtain ⟨-, -, -, -, hchanged⟩ := identity_of_transition happly
      obtain ⟨ihpair, ihle⟩ := ih
      have hbefore : ∀ e ∈ entries, e.occurredAt ≤ event.occurredAt := fun e he => (ihle e he).trans htime
      constructor
      · rw [List.map_append, List.pairwise_append]
        refine ⟨ihpair, by simp, ?_⟩
        intro a ha b hb
        obtain ⟨e, he, rfl⟩ := List.mem_map.mp ha
        rw [List.map_singleton, List.mem_singleton] at hb
        subst hb
        exact hbefore e he
      · intro e he
        rw [hchanged]
        rcases List.mem_append.mp he with he | he
        · exact hbefore e he
        · rw [List.mem_singleton] at he
          subst he
          exact le_refl _

/-- Replaying a chain yields its record. -/
lemma replay_eq {job : SealedJob} (h : Chain entries record) (hid : job.jobId = record.jobId)
    (hdigest : job.jobDigest = record.jobDigest) : replay job entries = .ok record := by
  induction h with
  | @initial record sequence hpending hrevision hvalid =>
      simp only [replay, except_bind_ok]
      refine ⟨record, initialRecord_ok.mpr ⟨?_, hvalid⟩, rfl⟩
      exact eq_pendingRecord hvalid hpending hrevision hid hdigest
  | @append entries prior updated event sequence chain happly hfresh ih =>
      obtain ⟨hid', hdigest', -⟩ := identity_of_transition happly
      have hprior := ih (by rw [hid, hid']) (by rw [hdigest, hdigest'])
      rcases entries with _ | ⟨first, rest⟩
      · exact absurd rfl chain.ne_nil
      · simp only [replay, except_bind_ok, List.cons_append] at hprior ⊢
        obtain ⟨start, hstart, hfold⟩ := hprior
        refine ⟨start, hstart, ?_⟩
        rw [List.foldlM_append, except_bind_ok]
        refine ⟨prior, hfold, ?_⟩
        have hevent := entryEvent_transitionEntry happly sequence
        change (replayStep prior _ >>= pure) = _
        simp only [replayStep, except_bind_ok, except_pure_ok]
        exact ⟨updated, ⟨event, hevent, happly⟩, rfl⟩

/-- `history_projection` accepts a chain whose sequence numbers increase; its loop ends with the
record of the chain. -/
lemma history_fold {job : SealedJob} (h : Chain entries record) (hid : job.jobId = record.jobId)
    (hdigest : job.jobDigest = record.jobDigest)
    (hseq : (entries.map (·.sequence)).Pairwise (· < ·)) (hpos : ∀ e ∈ entries, 0 < e.sequence) :
    ∃ last, entries.foldlM (historyStep job) ⟨0, none, []⟩ = .ok ⟨last, some record, entries⟩ ∧
      ∃ e ∈ entries, e.sequence = last := by
  induction h with
  | @initial record sequence hpending hrevision hvalid =>
      refine ⟨sequence, ?_, initialEntry record sequence, by simp, rfl⟩
      have hinit : initialRecord job record.lastEventId record.lastChangedAt = .ok record :=
        initialRecord_ok.mpr ⟨eq_pendingRecord hvalid hpending hrevision hid hdigest, hvalid⟩
      have hsequence : 0 < sequence := hpos (initialEntry record sequence) (by simp)
      change (historyStep job _ (initialEntry record sequence) >>= pure) = _
      simp only [historyStep, historyInitial, except_bind_ok, require_ok, convert_ok, exists_const,
        except_pure_ok]
      exact ⟨_, ⟨⟨hid.symm, hdigest.symm⟩, hsequence, record, ⟨⟨rfl, rfl, rfl, rfl, rfl, rfl⟩, hinit⟩,
        rfl⟩, rfl⟩
  | @append entries prior updated event sequence chain happly hfresh ih =>
      obtain ⟨hid', hdigest', -⟩ := identity_of_transition happly
      rw [List.map_append, List.pairwise_append] at hseq
      obtain ⟨last, hfold, e, he, rfl⟩ := ih (by rw [hid, hid']) (by rw [hdigest, hdigest']) hseq.1
        fun e he => hpos e (List.mem_append_left _ he)
      have hlt : e.sequence < sequence :=
        hseq.2.2 _ (List.mem_map_of_mem he) _ (by simp [transitionEntry])
      refine ⟨sequence, ?_, transitionEntry prior updated event sequence, by simp, rfl⟩
      rw [List.foldlM_append, except_bind_ok]
      refine ⟨_, hfold, ?_⟩
      change (historyStep job _ _ >>= pure) = _
      simp only [historyStep, historyNext, except_bind_ok, require_ok, convert_ok, exists_const,
        except_pure_ok]
      refine ⟨_, ⟨⟨hid.symm, hdigest.symm⟩, hlt, updated, ⟨updated, ⟨event, ?_, happly⟩, ?_, rfl⟩, rfl⟩, rfl⟩
      · exact entryEvent_transitionEntry happly sequence
      · exact ⟨rfl, rfl, rfl, rfl, rfl⟩

/-- **A chain projects.** -/
lemma historyProjection_eq {job : SealedJob} (h : Chain entries record)
    (hid : job.jobId = record.jobId) (hdigest : job.jobDigest = record.jobDigest)
    (hseq : (entries.map (·.sequence)).Pairwise (· < ·)) (hpos : ∀ e ∈ entries, 0 < e.sequence) :
    historyProjection job entries = .ok ⟨job.jobId, job.jobDigest, entries⟩ := by
  obtain ⟨last, hfold, -⟩ := h.history_fold hid hdigest hseq hpos
  unfold historyProjection
  simp only [except_bind_ok, require_ok, exists_const, except_pure_ok]
  exact ⟨h.ne_nil, _, hfold, rfl⟩

end Chain

/-! ## The invariant -/

/-- The ledger rows of a job. -/
def entriesOf (s : Store) (jobId : String) : List LedgerEntry := s.ledger.filter (·.jobId = jobId)

/-- **The ledger invariant.** -/
structure LedgerInv [UnicodeData] (s : Store) : Prop where
  /-- The rows of every record form a chain that ends at it. -/
  chain : ∀ record ∈ s.records.rows, Chain (entriesOf s record.jobId) record
  /-- Every row belongs to a record. -/
  owned : ∀ e ∈ s.ledger, ∃ record ∈ s.records.rows, record.jobId = e.jobId
  /-- The sequence numbers count the rows. -/
  sequence : s.ledger.map (·.sequence) = List.range' 1 s.ledger.length
  /-- Every record belongs to a sealed job with its digest. -/
  sealed : ∀ record ∈ s.records.rows,
    ∃ row, s.jobs.find? record.jobId = some row ∧ row.job.jobDigest = record.jobDigest
  /-- Every stored job verifies. -/
  verified : ∀ row ∈ s.jobs.rows, verifyJob row.job = .ok ()
  /-- The database bounds the number of rows. -/
  bounded : s.ledger.length ≤ maxRowId

namespace LedgerInv

variable [UnicodeData] {s s' : Store}

lemma empty : LedgerInv Store.empty := by
  refine ⟨?_, ?_, rfl, ?_, ?_, by decide⟩
  · intro record h
    cases h
  · intro e h
    cases h
  · intro record h
    cases h
  · intro row h
    cases h

/-- Only the jobs, the records and the ledger matter. -/
lemma of_tables (h : LedgerInv s) (hjobs : s'.jobs = s.jobs) (hrecords : s'.records = s.records)
    (hledger : s'.ledger = s.ledger) : LedgerInv s' := by
  obtain ⟨h₁, h₂, h₃, h₄, h₅, h₆⟩ := h
  refine ⟨?_, ?_, ?_, ?_, ?_, ?_⟩
  · unfold entriesOf
    rw [hrecords, hledger]
    exact h₁
  · rw [hrecords, hledger]
    exact h₂
  · rw [hledger]
    exact h₃
  · rw [hrecords, hjobs]
    exact h₄
  · rw [hjobs]
    exact h₅
  · rw [hledger]
    exact h₆

lemma insertJob {job : SealedJob} {submission : SubmissionMetadata}
    {jobs : Table JobRow String (fun row => row.job.jobId)} (h : LedgerInv s)
    (hverify : verifyJob job = .ok ()) (hins : s.jobs.insert? ⟨job, submission⟩ = some jobs) :
    LedgerInv { s with jobs := jobs } := by
  refine ⟨h.chain, h.owned, h.sequence, ?_, ?_, h.bounded⟩
  · intro record hrecord
    obtain ⟨row, hrow, hdigest⟩ := h.sealed record hrecord
    refine ⟨row, ?_, hdigest⟩
    change jobs.find? record.jobId = some row
    rw [Table.find?_insert? hins]
    split_ifs with hkey
    · have hnone := Table.find?_none_of_insert? hins
      rw [hkey, hrow] at hnone
      cases hnone
    · exact hrow
  · intro row hrow
    rcases (Table.mem_insert? hins).mp hrow with hrow | rfl
    · exact h.verified row hrow
    · exact hverify

/-- The next sequence number keeps the numbering. -/
lemma sequence_append {ledger : List LedgerEntry} {entry : LedgerEntry}
    (h : ledger.map (·.sequence) = List.range' 1 ledger.length)
    (hentry : entry.sequence = ledger.length + 1) :
    (ledger ++ [entry]).map (·.sequence) = List.range' 1 (ledger ++ [entry]).length := by
  rw [List.map_append, List.length_append, List.map_singleton, List.length_singleton,
    List.range'_concat, h, hentry, Nat.one_mul, Nat.add_comm 1]

/-- A row of another job does not show in the rows of a job. -/
lemma entriesOf_append_ne (ledger : List LedgerEntry) (entry : LedgerEntry) {jobId : String}
    (h : entry.jobId ≠ jobId) :
    (ledger ++ [entry]).filter (·.jobId = jobId) = ledger.filter (·.jobId = jobId) := by
  rw [List.filter_append]
  simp [h]

lemma entriesOf_append_eq (ledger : List LedgerEntry) (entry : LedgerEntry) {jobId : String}
    (h : entry.jobId = jobId) :
    (ledger ++ [entry]).filter (·.jobId = jobId) = ledger.filter (·.jobId = jobId) ++ [entry] := by
  rw [List.filter_append]
  simp [h]

lemma insertRecord {record : JobRecord} {records : Table JobRecord String (fun row => row.jobId)}
    (h : LedgerInv s) (hvalid : record.Valid) (hpending : record.state = .pending)
    (hrevision : record.revision = 0)
    (hjob : ∃ row, s.jobs.find? record.jobId = some row ∧ row.job.jobDigest = record.jobDigest)
    (hins : s.records.insert? record = some records) (hlen : s.ledger.length < maxRowId) :
    LedgerInv { s with
      records := records
      ledger := s.ledger ++ [initialEntry record (s.ledger.length + 1)] } := by
  have hnew : s.records.find? record.jobId = none := Table.find?_none_of_insert? hins
  rw [Table.find?_eq_none_iff] at hnew
  refine ⟨?_, ?_, sequence_append h.sequence rfl, ?_, h.verified, ?_⟩
  · intro r hr
    change Chain ((s.ledger ++ [_]).filter _) r
    rcases (Table.mem_insert? hins).mp hr with hr | rfl
    · rw [entriesOf_append_ne s.ledger (initialEntry record _) (Ne.symm (hnew r hr))]
      exact h.chain r hr
    · -- No row of the ledger belongs to the new job yet.
      have hown : (initialEntry r (s.ledger.length + 1)).jobId = r.jobId := rfl
      rw [entriesOf_append_eq s.ledger _ hown]
      have hnone : s.ledger.filter (·.jobId = r.jobId) = [] := by
        rw [List.filter_eq_nil_iff]
        intro e he hjob'
        obtain ⟨r', hr', hid⟩ := h.owned e he
        exact hnew r' hr' (hid.trans (by simpa using hjob'))
      rw [hnone]
      exact .initial _ hpending hrevision hvalid
  · intro e he
    rcases List.mem_append.mp he with he | he
    · obtain ⟨r, hr, hid⟩ := h.owned e he
      exact ⟨r, (Table.mem_insert? hins).mpr (.inl hr), hid⟩
    · rw [List.mem_singleton] at he
      subst he
      exact ⟨record, (Table.mem_insert? hins).mpr (.inr rfl), rfl⟩
  · intro r hr
    rcases (Table.mem_insert? hins).mp hr with hr | rfl
    · exact h.sealed r hr
    · exact hjob
  · change (s.ledger ++ [_]).length ≤ maxRowId
    rw [List.length_append, List.length_singleton]
    omega

/-- The rows of the records after a transition. -/
lemma mem_updatedRecords {current updated r : JobRecord}
    (hcurrent : s.records.find? updated.jobId = some current)
    (hdigest : updated.jobDigest = current.jobDigest)
    (hr : r ∈ (updatedRecords s current updated).rows) :
    r = updated ∨ (r ∈ s.records.rows ∧ r.jobId ≠ updated.jobId) := by
  have hfind := Table.find?_of_mem hr
  rw [find?_updatedRecords hcurrent hdigest] at hfind
  split_ifs at hfind with hid
  · exact .inl (Option.some.inj hfind).symm
  · exact .inr ⟨Table.mem_of_find? hfind, hid⟩

lemma appended {current updated : JobRecord} {event : TransitionEvent} (h : LedgerInv s)
    (hcurrent : s.records.find? event.jobId = some current)
    (happly : applyTransition current event = .ok updated)
    (hfresh : ∀ e ∈ s.ledger, e.jobId = event.jobId → e.eventId ≠ event.eventId)
    (hlen : s.ledger.length < maxRowId) :
    LedgerInv (Connection.appended s current updated event) := by
  obtain ⟨hid, hdigest, -⟩ := identity_of_transition happly
  have hkey : current.jobId = event.jobId := Table.key_of_find? hcurrent
  have hupdated : updated.jobId = event.jobId := hid.trans hkey
  have hcurrent' : s.records.find? updated.jobId = some current := by rw [hupdated]; exact hcurrent
  have hmem := Table.mem_of_find? hcurrent
  have hnew : updated ∈ (updatedRecords s current updated).rows := by
    apply Table.mem_of_find? (k := updated.jobId)
    rw [find?_updatedRecords hcurrent' hdigest, if_pos rfl]
  refine ⟨?_, ?_, sequence_append h.sequence rfl, ?_, h.verified, ?_⟩
  · intro r hr
    change Chain ((s.ledger ++ [_]).filter _) r
    rcases mem_updatedRecords hcurrent' hdigest hr with rfl | ⟨hr, hne⟩
    · have hown : (transitionEntry current r event (s.ledger.length + 1)).jobId = r.jobId := rfl
      rw [entriesOf_append_eq s.ledger _ hown]
      have hchain : Chain (s.ledger.filter (·.jobId = r.jobId)) current := by
        have hc := h.chain current hmem
        unfold entriesOf at hc
        rw [hid]
        exact hc
      refine hchain.append _ happly fun e he => ?_
      rw [List.mem_filter, decide_eq_true_eq] at he
      exact hfresh e he.1 (he.2.trans hupdated)
    · rw [entriesOf_append_ne s.ledger (transitionEntry current updated event _) (Ne.symm hne)]
      exact h.chain r hr
  · intro e he
    -- The record of a row is still there, possibly updated.
    have howner : ∀ r ∈ s.records.rows,
        ∃ r' ∈ (updatedRecords s current updated).rows, r'.jobId = r.jobId := by
      intro r hr
      by_cases hr' : r.jobId = updated.jobId
      · exact ⟨updated, hnew, hr'.symm⟩
      · refine ⟨r, Table.mem_of_find? (k := r.jobId) ?_, rfl⟩
        rw [find?_updatedRecords hcurrent' hdigest, if_neg hr']
        exact Table.find?_of_mem hr
    rcases List.mem_append.mp he with he | he
    · obtain ⟨r, hr, hre⟩ := h.owned e he
      obtain ⟨r', hr', hre'⟩ := howner r hr
      exact ⟨r', hr', hre'.trans hre⟩
    · rw [List.mem_singleton] at he
      subst he
      exact ⟨updated, hnew, rfl⟩
  · intro r hr
    rcases mem_updatedRecords hcurrent' hdigest hr with rfl | ⟨hr, -⟩
    · obtain ⟨row, hrow, hrowdigest⟩ := h.sealed current hmem
      rw [hid, hdigest]
      exact ⟨row, hrow, hrowdigest⟩
    · exact h.sealed r hr
  · change (s.ledger ++ [_]).length ≤ maxRowId
    rw [List.length_append, List.length_singleton]
    omega

/-! ## Every method keeps the invariant -/

lemma admits {s₁ : Store} {job : SealedJob} {submission : SubmissionMetadata} {pending : JobRecord}
    {eventId occurredAt : String} (h : LedgerInv s) (hverify : verifyJob job = .ok ())
    (hinit : initialRecord job eventId occurredAt = .ok pending)
    (hadmits : Store.Admits s s₁ job submission pending) : LedgerInv s₁ := by
  obtain ⟨rfl, hvalid⟩ := initialRecord_ok.mp hinit
  obtain ⟨-, s₀, hjob, hrecord⟩ := hadmits
  obtain ⟨jobs, -, hins, rfl⟩ := insertJob_ok.mp hjob
  obtain ⟨records, hinsRecord, hlen, -, rfl⟩ :=
    (insertRecordAndInitialLedger_ok ⟨rfl, rfl⟩).mp hrecord
  have hrow : jobs.find? job.jobId = some ⟨job, submission⟩ := by
    rw [Table.find?_insert? hins, if_pos rfl]
  exact (h.insertJob hverify hins).insertRecord hvalid rfl rfl ⟨_, hrow, rfl⟩ hinsRecord hlen

lemma compareAndAppend {event : TransitionEvent} {updated : JobRecord} (h : LedgerInv s)
    (happend : Connection.compareAndAppend event s = (.ok updated, s')) : LedgerInv s' := by
  obtain ⟨current, hcurrent, happly, hfresh, hlen, rfl⟩ := compareAndAppend_ok.mp happend
  exact h.appended hcurrent happly hfresh hlen

lemma insertReceipt {artifact : ReceiptArtifact} (h : LedgerInv s)
    (hins : Connection.insertReceipt artifact s = (.ok (), s')) : LedgerInv s' := by
  obtain ⟨receipts, pointers, -, -, -, rfl⟩ := insertReceipt_ok.mp hins
  exact h.of_tables rfl rfl rfl

lemma finalize {event : TransitionEvent} {raw : RawReceiptArtifact} {receipt : ReceiptArtifact}
    {record : JobRecord} (h : LedgerInv s)
    (hfinal : Store.finalizeClaimedExecution event raw receipt s = (.ok record, s')) :
    LedgerInv s' := by
  obtain ⟨-, -, job, s₁, s₂, -, -, hraw, happend, -, hins⟩ :=
    Store.finalizeClaimedExecution_ok.mp hfinal
  obtain ⟨rawReceipts, -, -, rfl⟩ := insertRaw_ok.mp hraw
  have h₁ : LedgerInv { s with rawReceipts := rawReceipts } := h.of_tables rfl rfl rfl
  exact (h₁.compareAndAppend happend).insertReceipt hins

/-- **The ledger invariant is kept by every method of the store.** -/
theorem run (w : StoreWrite) (s : Store) (r : w.Res) (s' : Store) (h : LedgerInv s)
    (hrun : w.run s = (.ok r, s')) : LedgerInv s' := by
  cases w with
  | putIfAbsent job =>
      obtain ⟨hverify, hins⟩ := Store.putIfAbsent_ok hrun
      obtain ⟨jobs, -, hrow, rfl⟩ := insertJob_ok.mp hins
      exact h.insertJob hverify hrow
  | createPending record =>
      obtain ⟨hvalid, hpending, hrevision, ⟨job, hjob, hdigest⟩, hins⟩ :=
        Store.createPending_ok hrun
      obtain ⟨row, hrow, -, rfl⟩ := readSealed_ok.mp hjob
      obtain ⟨-, houtcome, hreason⟩ := hvalid.pending hpending
      obtain ⟨records, hinsRecord, hlen, -, rfl⟩ :=
        (insertRecordAndInitialLedger_ok ⟨houtcome, hreason⟩).mp hins
      exact h.insertRecord hvalid hpending hrevision ⟨row, hrow, hdigest⟩ hinsRecord hlen
  | sealPending job eventId occurredAt submission limits =>
      obtain ⟨hverify, hinit, hadmits⟩ := Store.sealPending_ok hrun
      exact h.admits hverify hinit hadmits
  | sealRejected job pendingEventId pendingOccurredAt closeEvent notice submission limits =>
      obtain ⟨hverify, -, -, -, -, -, pending, s₁, closed, s₂, hinit, hadmits, happend, -, hins⟩ :=
        Store.sealRejected_ok hrun
      exact ((h.admits hverify hinit hadmits).compareAndAppend happend).insertReceipt hins
  | sealWithLineageAdmission job pendingEventId pendingOccurredAt circuitEvent circuitNotice
      submission limits failurePolicy =>
      obtain ⟨hverify, -, pending, s₁, hinit, hadmits, hcases⟩ :=
        Store.sealWithLineageAdmission_ok hrun
      have h₁ := h.admits hverify hinit hadmits
      rcases hcases with ⟨-, -, rfl⟩ | ⟨-, -, -, -, -, s₂, happend, -, hins⟩
      · exact h₁
      · exact (h₁.compareAndAppend happend).insertReceipt hins
  | compareAndAppend event => exact h.compareAndAppend (Tx.transaction_ok.mp hrun)
  | putRawIfAbsent artifact =>
      obtain ⟨rawReceipts, -, -, rfl⟩ := insertRaw_ok.mp (Store.putRawIfAbsent_ok hrun)
      exact h.of_tables rfl rfl rfl
  | completeClaimedExecution event raw receipt =>
      obtain ⟨-, -, hfinal⟩ := Store.completeClaimedExecution_ok.mp hrun
      exact h.finalize hfinal
  | markClaimedExecutionUnknown event raw receipt =>
      obtain ⟨-, -, hfinal⟩ := Store.markClaimedExecutionUnknown_ok.mp hrun
      exact h.finalize hfinal
  | publishIfAbsent artifact => exact h.insertReceipt (Store.publishIfAbsent_ok hrun)
  | quarantineIfAbsent record =>
      obtain ⟨s₁, quarantine, hins, rfl⟩ := Store.quarantineIfAbsent_ok hrun
      exact (h.insertReceipt hins).of_tables rfl rfl rfl
  | createAuthBootstrap session =>
      obtain ⟨-, -, _, bootstraps, -, -, rfl⟩ := Store.createAuthBootstrap_ok hrun
      exact h.of_tables rfl rfl rfl
  | issueRegistrationCeremony tokenDigest ceremony =>
      obtain ⟨-, hins⟩ := Store.issueRegistrationCeremony_ok hrun
      obtain ⟨ceremonies, -, -, rfl⟩ := insertCeremony_ok.mp hins
      exact h.of_tables rfl rfl rfl
  | completeRegistration tokenDigest ceremonyId credential consumedAt =>
      obtain ⟨-, ceremony, bootstrap, s₁, s₂, -, -, -, -, -, -, -, hins, rfl, rfl⟩ :=
        Store.completeRegistration_ok hrun
      obtain ⟨credentials, -, -, rfl⟩ := insertCredential_ok.mp hins
      exact h.of_tables rfl rfl rfl
  | issueApprovalCeremony ceremony =>
      obtain ⟨-, -, -, -, hins⟩ := Store.issueApprovalCeremony_ok hrun
      obtain ⟨ceremonies, -, -, rfl⟩ := insertCeremony_ok.mp hins
      exact h.of_tables rfl rfl rfl
  | claimWithApproval ceremony credential verified approval claimEvent =>
      obtain ⟨hcontract, -, -, -, s₁, s₂, s₃, rfl, rfl, hins, happend⟩ :=
        Store.claimWithApproval_ok hrun
      obtain ⟨approvals, -, -, rfl⟩ := (insertApproval_ok hcontract.userVerified).mp hins
      refine LedgerInv.compareAndAppend ?_ happend
      exact h.of_tables rfl rfl rfl

/-- Every reachable store satisfies the invariant. -/
theorem of_reachable (h : Reachable s) : LedgerInv s :=
  ReachableBy.induction h empty fun w s r s' _ hs hrun => run w s r s' hs hrun

/-- The sealed job of a record. -/
lemma readSealed (h : LedgerInv s) {record : JobRecord} (hrecord : record ∈ s.records.rows) :
    ∃ job, s.readSealed record.jobId = .ok job ∧ job.jobId = record.jobId ∧
      job.jobDigest = record.jobDigest := by
  obtain ⟨row, hrow, hdigest⟩ := h.sealed record hrecord
  have hverify := h.verified row (Table.mem_of_find? hrow)
  have hkey := Table.key_of_find? hrow
  exact ⟨row.job, readSealed_ok.mpr ⟨row, hrow, hverify, rfl⟩, hkey, hdigest⟩

lemma readRecord (h : LedgerInv s) {record : JobRecord} (hrecord : record ∈ s.records.rows) :
    s.readRecord record.jobId = .ok record :=
  readRecord_ok.mpr ⟨Table.find?_of_mem hrecord, (h.chain record hrecord).valid⟩

lemma readLedger (h : LedgerInv s) {record : JobRecord} (hrecord : record ∈ s.records.rows) :
    s.readLedger record.jobId = .ok (entriesOf s record.jobId) :=
  if_neg (h.chain record hrecord).ne_nil

/-- The rows of a job are numbered in increasing order. -/
lemma sequence_entriesOf (h : LedgerInv s) (jobId : String) :
    ((entriesOf s jobId).map (·.sequence)).Pairwise (· < ·) ∧
      ∀ e ∈ entriesOf s jobId, 0 < e.sequence := by
  have hall : (s.ledger.map (·.sequence)).Pairwise (· < ·) := by
    rw [h.sequence]
    exact List.pairwise_lt_range'
  constructor
  · refine hall.sublist ?_
    exact List.Sublist.map _ List.filter_sublist
  · intro e he
    have hmem : e.sequence ∈ s.ledger.map (·.sequence) := List.mem_map_of_mem (List.mem_of_mem_filter he)
    rw [h.sequence, List.mem_range'_1] at hmem
    exact hmem.1

end LedgerInv

/-- The store holds one pending job and nothing else. -/
structure Store.HoldsOnly (s : Store) (job : SealedJob) (submission : SubmissionMetadata)
    (pending : JobRecord) : Prop where
  jobs : s.jobs.rows = [⟨job, submission⟩]
  records : s.records.rows = [pending]
  ledger : s.ledger = [initialEntry pending 1]
  rawReceipts : s.rawReceipts = Store.empty.rawReceipts
  receipts : s.receipts = Store.empty.receipts

/-- The empty store takes any job. -/
lemma admits_empty (job : SealedJob) (submission : SubmissionMetadata) (eventId occurredAt : String) :
    ∃ s₀ s', insertJob job submission Store.empty = (.ok (), s₀) ∧
      insertRecordAndInitialLedger (pendingRecord job eventId occurredAt) s₀ = (.ok (), s') ∧
      s'.HoldsOnly job submission (pendingRecord job eventId occurredAt) := by
  obtain ⟨jobs, hjobs, hjobRows⟩ := Table.insert?_eq_some (t := Store.empty.jobs)
    (r := ⟨job, submission⟩) rfl
  obtain ⟨records, hrecords, hrows⟩ := Table.insert?_eq_some (t := Store.empty.records)
    (r := pendingRecord job eventId occurredAt) rfl
  refine ⟨{ Store.empty with jobs := jobs }, _, ?_, (insertRecordAndInitialLedger_ok ⟨rfl, rfl⟩).mpr
      ⟨records, hrecords, ?_, ?_, rfl⟩, hjobRows, hrows, rfl, rfl, rfl⟩
  · refine insertJob_ok.mpr ⟨jobs, ?_, hjobs, rfl⟩
    intro row hrow
    cases hrow
  · change 0 < maxRowId
    decide
  · intro e he
    cases he

/-- The empty store is below every limit. -/
lemma enforceSubmissionLimits_empty (job : SealedJob) {submission : SubmissionMetadata}
    {limits : SubmissionLimits} {cutoff : String}
    (hsubmission : validateSubmission submission limits = .ok ())
    (hcutoff : secondsBefore submission.brokerReceivedAt limits.windowSeconds = .ok cutoff) :
    enforceSubmissionLimits job submission limits Store.empty = .ok () := by
  unfold validateSubmission at hsubmission
  simp only [except_bind_ok, require_ok, exists_const] at hsubmission
  obtain ⟨-, huid, hlineage, hwindow, -⟩ := hsubmission
  unfold enforceSubmissionLimits
  simp only [except_bind_ok, require_ok, exists_const]
  exact ⟨huid, hlineage, cutoff, hcutoff, hwindow⟩

/-- Sealing a job that the store takes and that passes the limits. -/
lemma sealPending_of_admits [UnicodeData] {s s' : Store} {job : SealedJob}
    {eventId occurredAt : String} {limits : SubmissionLimits} (hverify : verifyJob job = .ok ())
    (hvalid : (pendingRecord job eventId occurredAt).Valid)
    (hsubmission : validateSubmission ⟨0, 0, 0, occurredAt⟩ limits = .ok ())
    (hlimits : enforceSubmissionLimits job ⟨0, 0, 0, occurredAt⟩ limits s = .ok ())
    (hadmits : Store.Admits s s' job ⟨0, 0, 0, occurredAt⟩ (pendingRecord job eventId occurredAt)) :
    Store.sealPending job eventId occurredAt none limits s =
      (.ok (pendingRecord job eventId occurredAt), s') := by
  obtain ⟨hnone, s₀, hjob, hrecord⟩ := hadmits
  unfold Store.sealPending
  simp only [Tx.bind_ok, Tx.ofExcept_ok, Tx.reads_ok, Tx.require_ok, Tx.readsOrRaise_ok,
    Tx.transaction_ok, Tx.pure_ok]
  exact ⟨(), _, ⟨hverify, rfl⟩, _, _, ⟨initialRecord_ok.mpr ⟨rfl, hvalid⟩, rfl⟩, (), _,
    ⟨hsubmission, rfl⟩, (), _, ⟨_, _, ⟨rfl, rfl⟩, (), _, ⟨by rw [hnone]; rfl, rfl⟩, (), _,
      ⟨hlimits, rfl⟩, (), _, hjob, hrecord⟩, rfl, rfl⟩

/-- Sealing a job into the empty store. -/
lemma sealPending_empty [UnicodeData] {job : SealedJob} {eventId occurredAt cutoff : String}
    {limits : SubmissionLimits} (hverify : verifyJob job = .ok ())
    (hvalid : (pendingRecord job eventId occurredAt).Valid)
    (hsubmission : validateSubmission ⟨0, 0, 0, occurredAt⟩ limits = .ok ())
    (hcutoff : secondsBefore occurredAt limits.windowSeconds = .ok cutoff) :
    ∃ s', Store.sealPending job eventId occurredAt none limits Store.empty =
        (.ok (pendingRecord job eventId occurredAt), s') ∧
      s'.HoldsOnly job ⟨0, 0, 0, occurredAt⟩ (pendingRecord job eventId occurredAt) := by
  obtain ⟨s₀, s', hjob, hrecord, hholds⟩ := admits_empty job ⟨0, 0, 0, occurredAt⟩ eventId occurredAt
  have hlimits := enforceSubmissionLimits_empty job hsubmission hcutoff
  exact ⟨s', sealPending_of_admits hverify hvalid hsubmission hlimits ⟨rfl, s₀, hjob, hrecord⟩,
    hholds⟩

/-- The sample job can be sealed. -/
lemma reachable_sample : ∃ s, @Reachable UnicodeData.asciiOnly s ∧
    s.records.rows = [pendingRecord sampleJob "event-1" "2026-01-01T00:00:00Z"] := by
  let _ := UnicodeData.asciiOnly
  have hverify : verifyJob sampleJob = .ok () := verifyJob_ok.mpr seal_sampleManifest
  have hvalid : (pendingRecord sampleJob "event-1" "2026-01-01T00:00:00Z").Valid :=
    valid_pendingRecord (wellFormed_of_seal seal_sampleManifest) (by decide)
      (by decide)
  have hsubmission : validateSubmission ⟨0, 0, 0, "2026-01-01T00:00:00Z"⟩ {} = .ok () := by
    decide
  have hcutoff : secondsBefore "2026-01-01T00:00:00Z" 3600 = .ok "2025-12-31T23:00:00Z" := by
    decide
  obtain ⟨s, hrun, hholds⟩ := sealPending_empty hverify hvalid hsubmission hcutoff
  have hafter := StoreWrite.after_of_ok (w := .sealPending sampleJob "event-1"
    "2026-01-01T00:00:00Z" none {}) hrun
  exact ⟨s, Reaches.tail .refl trivial (congrArg some hafter), hholds.records⟩

end AgentRuntimeOps.RootActions
