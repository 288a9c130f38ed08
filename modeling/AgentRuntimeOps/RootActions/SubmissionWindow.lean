import AgentRuntimeOps.Lib.CalendarOrder
import AgentRuntimeOps.RootActions.Settling

/-!
# Submission limits

Every submission is checked against the jobs that are in the store at the time: the open jobs of
its peer and of its lineage, and the jobs of its peer that were received since the beginning of a
window that ends with the newcomer.  Broker clocks may step back, so a newcomer need not be the
latest job of its window.

The bound holds for every window nevertheless (`submission_limits`).  Of the jobs in a window, let
the one that was inserted last be the newcomer: the window that `_enforce_submission_limits` looks
at begins no later than the given one, and so all others were counted.  The comparison there is one
of texts; that it compares instants is `DateTime.IsStamp.le_iff`.
-/

set_option linter.unusedSectionVars false

namespace AgentRuntimeOps.RootActions

open AgentRuntimeOps.Lib Connection DateTime

variable [UnicodeData]

/-! ## Broker timestamps -/

omit [UnicodeData] in
lemma isDigit_of_range {lo hi c : Char} (h : lo ≤ c ∧ c ≤ hi) (hlo : '0' ≤ lo) (hhi : hi ≤ '9') :
    c.isDigit = true := by
  simp only [Char.isDigit, Bool.and_eq_true, decide_eq_true_eq]
  exact ⟨Char.le_trans hlo h.1, Char.le_trans h.2 hhi⟩

omit [UnicodeData] in
/-- The timestamps of records are texts that `strftime` writes. -/
lemma isStamp_of_isRealTimestamp {s : String} (h : isRealTimestamp s = true) : IsStamp s := by
  unfold isRealTimestamp at h
  rw [Bool.and_eq_true, Option.isSome_iff_exists] at h
  obtain ⟨hre, t, ht⟩ := h
  unfold isTimestamp at hre
  split at hre
  · next a b y₁ y₂ s₁ m₁ m₂ s₂ d₁ d₂ t' h₁ h₂ s₃ i₁ i₂ s₄ c₁ c₂ z heq =>
    simp only [Bool.and_eq_true, Bool.or_eq_true, beq_iff_eq, decide_eq_true_eq] at hre
    obtain ⟨⟨⟨⟨⟨⟨⟨⟨⟨⟨⟨⟨⟨⟨rfl, rfl⟩, hy₁⟩, hy₂⟩, rfl⟩, hm⟩, rfl⟩, hd⟩, rfl⟩, hh⟩, rfl⟩, ⟨hi, hi₂⟩⟩, rfl⟩,
      ⟨hc, hc₂⟩⟩, rfl⟩ := hre
    have hi₁ := isDigit_of_range hi (by decide) (by decide)
    have hc₁ := isDigit_of_range hc (by decide) (by decide)
    have hm' : m₁.isDigit = true ∧ m₂.isDigit = true := by
      rcases hm with ⟨⟨rfl, hlo⟩, hhi⟩ | ⟨⟨rfl, hlo⟩, hhi⟩
      · exact ⟨rfl, isDigit_of_range ⟨hlo, hhi⟩ (by decide) (by decide)⟩
      · exact ⟨rfl, isDigit_of_range ⟨hlo, hhi⟩ (by decide) (by decide)⟩
    have hd' : d₁.isDigit = true ∧ d₂.isDigit = true := by
      rcases hd with (⟨⟨rfl, hlo⟩, hhi⟩ | ⟨rfl | rfl, hdigit⟩) | ⟨rfl, rfl | rfl⟩
      · exact ⟨rfl, isDigit_of_range ⟨hlo, hhi⟩ (by decide) (by decide)⟩
      · exact ⟨rfl, hdigit⟩
      · exact ⟨rfl, hdigit⟩
      · exact ⟨rfl, rfl⟩
      · exact ⟨rfl, rfl⟩
    have hh' : h₁.isDigit = true ∧ h₂.isDigit = true := by
      rcases hh with ⟨rfl | rfl, hdigit⟩ | ⟨⟨rfl, hlo⟩, hhi⟩
      · exact ⟨rfl, hdigit⟩
      · exact ⟨rfl, hdigit⟩
      · exact ⟨rfl, isDigit_of_range ⟨hlo, hhi⟩ (by decide) (by decide)⟩
    refine isStamp_of_strptime heq ?_ ht
    simp only [List.all_cons, List.all_nil, hy₁, hy₂, hm'.1, hm'.2, hd'.1, hd'.2, hh'.1, hh'.2, hi₁, hi₂,
      hc₁, hc₂, Bool.and_true]
    rfl
  · exact absurd hre (by decide)

omit [UnicodeData] in
/-- The beginning of a window. -/
lemma secondsBefore_stamp {value cutoff : String} {window : Nat} (hvalue : IsStamp value)
    (h : secondsBefore value window = .ok cutoff) :
    IsStamp cutoff ∧ seconds cutoff + window = seconds value := by
  obtain ⟨t, hreal, hyear, rfl⟩ := hvalue
  unfold secondsBefore at h
  rw [strptime_strftime hreal hyear] at h
  dsimp only at h
  split_ifs at h with hle
  cases h
  obtain ⟨hstamp, hseconds⟩ :=
    isStamp_ofSeconds hreal hyear (show t.toSeconds - window ≤ t.toSeconds by omega)
  refine ⟨hstamp, ?_⟩
  rw [hseconds, seconds_strftime hreal hyear]
  omega

/-! ## Runs -/

/-- A call of a run in which all jobs enter with the same limits and with broker timestamps. -/
def StoreWrite.Limited (limits : SubmissionLimits) : StoreWrite → Prop
  | .putIfAbsent _ => False
  | .sealPending _ _ _ submission limits' =>
      limits' = limits ∧ ∀ metadata ∈ submission, IsStamp metadata.brokerReceivedAt
  | .sealRejected _ _ _ _ _ submission limits' =>
      limits' = limits ∧ IsStamp submission.brokerReceivedAt
  | .sealWithLineageAdmission _ _ _ _ _ submission limits' _ =>
      limits' = limits ∧ IsStamp submission.brokerReceivedAt
  | _ => True

/-- The job was received in the window that begins at an instant. -/
def receivedIn (limits : SubmissionLimits) (start : ℚ) (row : JobRow) : Bool :=
  decide (start ≤ seconds row.submission.brokerReceivedAt ∧
    (seconds row.submission.brokerReceivedAt : ℚ) ≤ start + limits.windowSeconds)

/-- **The submission limits.** -/
structure WithinLimits (limits : SubmissionLimits) (s : Store) : Prop where
  openPerUid : ∀ uid, (openJobs s).countP (·.submission.peerUid = uid) ≤ limits.maxOpenPerUid
  openPerLineage : ∀ lineage,
    (openJobs s).countP (·.job.lineageId = lineage) ≤ limits.maxOpenPerLineage
  window : ∀ uid start, s.jobs.rows.countP (fun row => row.submission.peerUid = uid &&
    receivedIn limits start row) ≤ limits.maxJobsPerUidWindow

/-- What holds in such runs. -/
structure LimitsInv (limits : SubmissionLimits) (s : Store) : Prop where
  recorded : Recorded s
  stamped : ∀ row ∈ s.jobs.rows, IsStamp row.submission.brokerReceivedAt
  within : WithinLimits limits s

/-! ## What a call admits -/

/-- A call that adds no job, or one that passes the limits. -/
inductive Entering (limits : SubmissionLimits) (s s' : Store) : Prop where
  | none (hjobs : s'.jobs = s.jobs)
  | one {job : SealedJob} {submission : SubmissionMetadata}
      (hstamp : IsStamp submission.brokerReceivedAt)
      (hlimits : enforceSubmissionLimits job submission limits s = .ok ())
      (hjobs : s'.jobs.rows = s.jobs.rows ++ [⟨job, submission⟩])
      (hrecord : ∃ r, s'.records.find? job.jobId = some r)

section entering

variable {limits : SubmissionLimits} {s s₁ s' : Store}

lemma Entering.of_admits {job : SealedJob} {submission : SubmissionMetadata} {pending : JobRecord}
    {eventId occurredAt : String} (hstamp : IsStamp submission.brokerReceivedAt)
    (hlimits : enforceSubmissionLimits job submission limits s = .ok ())
    (hinit : initialRecord job eventId occurredAt = .ok pending)
    (hadmits : Store.Admits s s₁ job submission pending) (hext : s₁.Extends s')
    (hjobs : s'.jobs = s₁.jobs) : Entering limits s s' := by
  obtain ⟨-, hpending, -⟩ := RecordMoves.admits hinit hadmits
  obtain ⟨r, hr, -⟩ := hext.records _ _ hpending
  obtain ⟨rfl, -⟩ := initialRecord_ok.mp hinit
  obtain ⟨-, s₀, hjob, hrecord⟩ := hadmits
  obtain ⟨jobs, -, hins, rfl⟩ := insertJob_ok.mp hjob
  obtain ⟨records, -, -, -, rfl⟩ := (insertRecordAndInitialLedger_ok ⟨rfl, rfl⟩).mp hrecord
  refine .one hstamp hlimits ?_ ⟨r, hr⟩
  rw [hjobs]
  exact Table.rows_insert? hins

/-- The end of an execution, or of a rejected submission, adds no job. -/
lemma jobs_closes {event : TransitionEvent} {closed : JobRecord} {notice : ReceiptArtifact}
    (happend : Connection.compareAndAppend event s = (.ok closed, s₁))
    (hins : Connection.insertReceipt notice s₁ = (.ok (), s')) : s'.jobs = s.jobs := by
  obtain ⟨current, -, -, -, -, rfl⟩ := compareAndAppend_ok.mp happend
  obtain ⟨receipts, pointers, -, -, -, rfl⟩ := insertReceipt_ok.mp hins
  rfl

/-- **What a successful call adds to the jobs.** -/
theorem entering_run (w : StoreWrite) (r : w.Res) (hw : w.Limited limits)
    (hrun : w.run s = (.ok r, s')) : Entering limits s s' := by
  cases w with
  | putIfAbsent job => exact hw.elim
  | createPending record =>
      obtain ⟨hvalid, hpending, -, -, hins⟩ := Store.createPending_ok hrun
      obtain ⟨-, houtcome, hreason⟩ := hvalid.pending hpending
      obtain ⟨records, -, -, -, rfl⟩ :=
        (insertRecordAndInitialLedger_ok ⟨houtcome, hreason⟩).mp hins
      exact .none rfl
  | sealPending job eventId occurredAt submission limits' =>
      obtain ⟨rfl, hstamps⟩ := hw
      obtain ⟨-, hinit, hadmits⟩ := Store.sealPending_ok hrun
      have hlimits := Store.sealPending_limits hrun
      refine .of_admits ?_ hlimits hinit hadmits (.refl s') rfl
      -- Without metadata the job is received when its first event occurs.
      cases submission with
      | none =>
          obtain ⟨rfl, hvalid⟩ := initialRecord_ok.mp hinit
          exact isStamp_of_isRealTimestamp hvalid.lastChangedAt
      | some metadata => exact hstamps metadata rfl
  | sealRejected job pendingEventId pendingOccurredAt closeEvent notice submission limits' =>
      obtain ⟨rfl, hstamp⟩ := hw
      obtain ⟨-, -, -, -, -, -, pending, s₁, closed, s₂, hinit, hadmits, happend, -, hins⟩ :=
        Store.sealRejected_ok hrun
      have hext := (Store.Extends.compareAndAppend happend).trans (.insertReceipt hins)
      exact .of_admits hstamp (Store.sealRejected_limits hrun) hinit hadmits hext
        (jobs_closes happend hins)
  | sealWithLineageAdmission job pendingEventId pendingOccurredAt circuitEvent circuitNotice
      submission limits' failurePolicy =>
      obtain ⟨rfl, hstamp⟩ := hw
      obtain ⟨-, -, pending, s₁, hinit, hadmits, hcases⟩ := Store.sealWithLineageAdmission_ok hrun
      have hlimits := Store.sealWithLineageAdmission_limits hrun
      rcases hcases with ⟨-, -, rfl⟩ | ⟨-, -, -, -, -, s₂, happend, -, hins⟩
      · exact .of_admits hstamp hlimits hinit hadmits (.refl s') rfl
      · have hext := (Store.Extends.compareAndAppend happend).trans (.insertReceipt hins)
        exact .of_admits hstamp hlimits hinit hadmits hext (jobs_closes happend hins)
  | compareAndAppend event =>
      obtain ⟨current, -, -, -, -, rfl⟩ := compareAndAppend_ok.mp (Tx.transaction_ok.mp hrun)
      exact .none rfl
  | putRawIfAbsent artifact =>
      obtain ⟨rawReceipts, -, -, rfl⟩ := insertRaw_ok.mp (Store.putRawIfAbsent_ok hrun)
      exact .none rfl
  | completeClaimedExecution event raw receipt =>
      exact .none (jobs_finalize (Store.completeClaimedExecution_ok.mp hrun).2.2)
  | markClaimedExecutionUnknown event raw receipt =>
      exact .none (jobs_finalize (Store.markClaimedExecutionUnknown_ok.mp hrun).2.2)
  | publishIfAbsent artifact =>
      obtain ⟨receipts, pointers, -, -, -, rfl⟩ := insertReceipt_ok.mp (Store.publishIfAbsent_ok hrun)
      exact .none rfl
  | quarantineIfAbsent record =>
      obtain ⟨s₁, quarantine, hins, rfl⟩ := Store.quarantineIfAbsent_ok hrun
      obtain ⟨receipts, pointers, -, -, -, rfl⟩ := insertReceipt_ok.mp hins
      exact .none rfl
  | createAuthBootstrap session =>
      obtain ⟨-, -, _, bootstraps, -, -, rfl⟩ := Store.createAuthBootstrap_ok hrun
      exact .none rfl
  | issueRegistrationCeremony tokenDigest ceremony =>
      obtain ⟨ceremonies, -, -, rfl⟩ :=
        insertCeremony_ok.mp (Store.issueRegistrationCeremony_ok hrun).2
      exact .none rfl
  | completeRegistration tokenDigest ceremonyId credential consumedAt =>
      obtain ⟨-, ceremony, bootstrap, s₁, s₂, -, -, -, -, -, -, -, hins, rfl, rfl⟩ :=
        Store.completeRegistration_ok hrun
      obtain ⟨credentials, -, -, rfl⟩ := insertCredential_ok.mp hins
      exact .none rfl
  | issueApprovalCeremony ceremony =>
      obtain ⟨-, -, -, -, hins⟩ := Store.issueApprovalCeremony_ok hrun
      obtain ⟨ceremonies, -, -, rfl⟩ := insertCeremony_ok.mp hins
      exact .none rfl
  | claimWithApproval ceremony credential verified approval claimEvent =>
      obtain ⟨hcontract, -, -, -, s₁, s₂, s₃, rfl, rfl, hins, happend⟩ :=
        Store.claimWithApproval_ok hrun
      obtain ⟨approvals, -, -, rfl⟩ := (insertApproval_ok hcontract.userVerified).mp hins
      obtain ⟨current, -, -, -, -, rfl⟩ := compareAndAppend_ok.mp happend
      exact .none rfl

end entering

/-! ## Open jobs -/

section openJobs

variable {s s' : Store}

/-- The record of a job is in an open state. -/
def isOpen (s : Store) (row : JobRow) : Bool := (s.records.find? row.job.jobId).any fun record =>
  record.state = .pending || record.state = .running || record.state = .unknown

/-- A job that is open was open before. -/
lemma isOpen_of_later {row : JobRow} (hrecorded : Recorded s) (hext : s.Extends s')
    (hrow : row ∈ s.jobs.rows) (h : isOpen s' row = true) : isOpen s row = true := by
  obtain ⟨record, hrecord⟩ := hrecorded _ row (Table.find?_of_mem hrow)
  obtain ⟨record', hrecord', hfollows⟩ := hext.records _ record hrecord
  unfold isOpen at h ⊢
  rw [hrecord', Option.any_some] at h
  rw [hrecord, Option.any_some]
  cases hstate : record.state with
  | pending => rfl
  | running => rfl
  | unknown => rfl
  | terminal =>
      rw [hfollows.eq_of_terminal hstate, hstate] at h
      exact h

/-- Of the jobs that were there, no more are open than before. -/
lemma countP_open_le (hrecorded : Recorded s) (hext : s.Extends s') (p : JobRow → Bool) :
    (s.jobs.rows.filter (isOpen s')).countP p ≤ (openJobs s).countP p := by
  change _ ≤ (s.jobs.rows.filter (isOpen s)).countP p
  rw [List.countP_filter, List.countP_filter]
  apply List.countP_mono_left
  intro row hrow h
  rw [Bool.and_eq_true] at h ⊢
  exact ⟨h.1, isOpen_of_later hrecorded hext hrow h.2⟩

/-- A newcomer adds at most one open job, and only where it belongs. -/
lemma countP_open_append_le (hrecorded : Recorded s) (hext : s.Extends s') {row : JobRow}
    (hjobs : s'.jobs.rows = s.jobs.rows ++ [row]) (p : JobRow → Bool) :
    (openJobs s').countP p ≤ (openJobs s).countP p + if p row then 1 else 0 := by
  change (s'.jobs.rows.filter (isOpen s')).countP p ≤ _
  rw [hjobs, List.filter_append, List.countP_append]
  have hold := countP_open_le hrecorded hext p
  have hnew : ([row].filter (isOpen s')).countP p ≤ if p row then 1 else 0 := by
    rw [List.countP_filter, List.countP_singleton]
    split_ifs with h₁ h₂
    · exact le_rfl
    · exact absurd ((Bool.and_eq_true _ _).mp h₁).1 h₂
    · exact Nat.zero_le _
    · exact le_rfl
  omega

end openJobs

/-! ## The window -/

section window

variable {limits : SubmissionLimits} {s : Store}

lemma enforceSubmissionLimits_ok {job : SealedJob} {submission : SubmissionMetadata}
    (h : enforceSubmissionLimits job submission limits s = .ok ()) :
    (openJobs s).countP (·.submission.peerUid = submission.peerUid) < limits.maxOpenPerUid ∧
      (openJobs s).countP (·.job.lineageId = job.lineageId) < limits.maxOpenPerLineage ∧
      ∃ cutoff, secondsBefore submission.brokerReceivedAt limits.windowSeconds = .ok cutoff ∧
        s.jobs.rows.countP (fun row => row.submission.peerUid = submission.peerUid &&
          decide (cutoff ≤ row.submission.brokerReceivedAt)) < limits.maxJobsPerUidWindow := by
  unfold enforceSubmissionLimits at h
  simp only [except_bind_ok, require_ok, exists_const] at h
  obtain ⟨huid, hlineage, cutoff, hcutoff, hwindow⟩ := h
  exact ⟨huid, hlineage, cutoff, hcutoff, hwindow⟩

/-- A job that shares a window with the newcomer is one that the check counts. -/
lemma cutoff_le_of_receivedIn {start : ℚ} {cutoff : String} {new row : JobRow}
    (hnew : IsStamp new.submission.brokerReceivedAt) (hrow : IsStamp row.submission.brokerReceivedAt)
    (hcutoff : secondsBefore new.submission.brokerReceivedAt limits.windowSeconds = .ok cutoff)
    (hinNew : receivedIn limits start new = true) (hinRow : receivedIn limits start row = true) :
    cutoff ≤ row.submission.brokerReceivedAt := by
  obtain ⟨hstamp, hseconds⟩ := secondsBefore_stamp hnew hcutoff
  rw [hstamp.le_iff hrow]
  unfold receivedIn at hinNew hinRow
  rw [decide_eq_true_eq] at hinNew hinRow
  have hend : (seconds cutoff : ℚ) + limits.windowSeconds =
      seconds new.submission.brokerReceivedAt := by
    exact_mod_cast hseconds
  have hle : (seconds cutoff : ℚ) ≤ seconds row.submission.brokerReceivedAt := by
    linarith [hinNew.2, hinRow.1]
  exact_mod_cast hle

/-- **A window has room for the newcomer.** -/
lemma countP_window_append_le {uid : Nat} {start : ℚ} {new : JobRow}
    (hstamped : ∀ row ∈ s.jobs.rows, IsStamp row.submission.brokerReceivedAt)
    (hnew : IsStamp new.submission.brokerReceivedAt)
    (hold : s.jobs.rows.countP (fun row => row.submission.peerUid = uid &&
      receivedIn limits start row) ≤ limits.maxJobsPerUidWindow)
    (hlimits : enforceSubmissionLimits new.job new.submission limits s = .ok ()) :
    (s.jobs.rows ++ [new]).countP (fun row => row.submission.peerUid = uid &&
      receivedIn limits start row) ≤ limits.maxJobsPerUidWindow := by
  obtain ⟨-, -, cutoff, hcutoff, hwindow⟩ := enforceSubmissionLimits_ok hlimits
  rw [List.countP_append, List.countP_singleton]
  split_ifs with hin
  · -- The newcomer is in the window, and it was compared with all others that are.
    rw [Bool.and_eq_true, decide_eq_true_eq] at hin
    obtain ⟨huid, hin⟩ := hin
    have hmono : s.jobs.rows.countP (fun row => row.submission.peerUid = uid &&
        receivedIn limits start row) ≤
        s.jobs.rows.countP (fun row => row.submission.peerUid = new.submission.peerUid &&
          decide (cutoff ≤ row.submission.brokerReceivedAt)) := by
      apply List.countP_mono_left
      intro row hrow h
      rw [Bool.and_eq_true, decide_eq_true_eq] at h
      rw [Bool.and_eq_true, decide_eq_true_eq, decide_eq_true_eq]
      exact ⟨h.1.trans huid.symm,
        cutoff_le_of_receivedIn hnew (hstamped row hrow) hcutoff hin h.2⟩
    omega
  · exact hold

end window

/-! ## Whole runs -/

namespace LimitsInv

variable {limits : SubmissionLimits} {s s' : Store}

lemma empty : LimitsInv limits Store.empty where
  recorded := by
    intro jobId row h
    cases h
  stamped := by
    intro row h
    cases h
  within := ⟨fun _ => Nat.zero_le _, fun _ => Nat.zero_le _, fun _ _ => Nat.zero_le _⟩

lemma none (h : LimitsInv limits s) (hext : s.Extends s') (hjobs : s'.jobs = s.jobs) :
    LimitsInv limits s' := by
  have hopen : ∀ p, (openJobs s').countP p ≤ (openJobs s).countP p := by
    intro p
    have hle := countP_open_le h.recorded hext p
    rw [← hjobs] at hle
    exact hle
  refine ⟨h.recorded.of_jobs hext hjobs, ?_, ?_, ?_, ?_⟩
  · rw [hjobs]
    exact h.stamped
  · intro uid
    exact (hopen _).trans (h.within.openPerUid uid)
  · intro lineage
    exact (hopen _).trans (h.within.openPerLineage lineage)
  · rw [hjobs]
    exact h.within.window

lemma one {new : JobRow} (h : LimitsInv limits s) (hext : s.Extends s')
    (hstamp : IsStamp new.submission.brokerReceivedAt)
    (hlimits : enforceSubmissionLimits new.job new.submission limits s = .ok ())
    (hjobs : s'.jobs.rows = s.jobs.rows ++ [new])
    (hrecord : ∃ r, s'.records.find? new.job.jobId = some r) : LimitsInv limits s' := by
  obtain ⟨huid, hlineage, -⟩ := enforceSubmissionLimits_ok hlimits
  have hopen := countP_open_append_le h.recorded hext hjobs
  refine ⟨?_, ?_, ?_, ?_, ?_⟩
  · intro jobId row hrow
    have hmem := Table.mem_of_find? hrow
    have hkey := Table.key_of_find? hrow
    rw [hjobs, List.mem_append, List.mem_singleton] at hmem
    rcases hmem with hmem | rfl
    · obtain ⟨r, hr⟩ := h.recorded _ row (Table.find?_of_mem hmem)
      obtain ⟨r', hr', -⟩ := hext.records _ r hr
      rw [← hkey]
      exact ⟨r', hr'⟩
    · rw [← hkey]
      exact hrecord
  · intro row hrow
    rw [hjobs, List.mem_append, List.mem_singleton] at hrow
    rcases hrow with hrow | rfl
    · exact h.stamped row hrow
    · exact hstamp
  · intro uid
    have hle := hopen (·.submission.peerUid = uid)
    by_cases hsame : new.submission.peerUid = uid
    · rw [if_pos (decide_eq_true hsame)] at hle
      rw [hsame] at huid
      omega
    · rw [if_neg (by simpa using hsame)] at hle
      exact hle.trans (h.within.openPerUid uid)
  · intro lineage
    have hle := hopen (·.job.lineageId = lineage)
    by_cases hsame : new.job.lineageId = lineage
    · rw [if_pos (decide_eq_true hsame)] at hle
      rw [hsame] at hlineage
      omega
    · rw [if_neg (by simpa using hsame)] at hle
      exact hle.trans (h.within.openPerLineage lineage)
  · intro uid start
    rw [hjobs]
    exact countP_window_append_le h.stamped hstamp (h.within.window uid start) hlimits

theorem run (w : StoreWrite) (r : w.Res) (hw : w.Limited limits) (h : LimitsInv limits s)
    (hrun : w.run s = (.ok r, s')) : LimitsInv limits s' := by
  have hext := extends_run w s r s' hrun
  cases entering_run w r hw hrun with
  | none hjobs => exact h.none hext hjobs
  | one hstamp hlimits hjobs hrecord => exact h.one hext hstamp hlimits hjobs hrecord

theorem of_reachable (h : ReachableBy (fun w => w.Limited limits) s) : LimitsInv limits s :=
  ReachableBy.induction h empty fun w _ r _ hw hs hrun => run w r hw hs hrun

end LimitsInv

end AgentRuntimeOps.RootActions
