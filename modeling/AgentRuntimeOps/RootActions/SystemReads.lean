import AgentRuntimeOps.RootActions.ProjectionSize
import AgentRuntimeOps.RootActions.SystemStore

/-!
# Reading the stores of the service

In a store that the service writes, every job that has a record can be read and projected: its
sealed manifest, its record, its ledger, its receipt when it is in a final state, and the summary of
its lineage.  The parts of a projection may come from different stores, as long as each of them is
later than the one before (`Store.LeadsTo`): a final record does not change any more.
-/

set_option linter.unusedSectionVars false

namespace AgentRuntimeOps.RootActions

open AgentRuntimeOps.Lib Connection

variable [UnicodeData]

/-! ## Later stores -/

/-- `s'` is reached from `s` by calls of the service. -/
def Store.LeadsTo (s s' : Store) : Prop := Reaches storeStep (fun _ c => c.isSystem = true) s s'

/-- The service reconciles no unknown outcome. -/
lemma kind_of_isSystem {c : StoreWrite} {s s' : Store} {a : c.Res} {event : TransitionEvent}
    (hc : c.isSystem = true) (hrun : c.run s = (.ok a, s')) (hevent : c.event? = some event) :
    event.kind ≠ .reconcileUnknown := by
  intro hkind
  cases c with
  | compareAndAppend event' =>
      cases hevent
      have hclaim : event.kind = .claimExecution := of_decide_eq_true hc
      rw [hkind] at hclaim
      cases hclaim
  | completeClaimedExecution event' raw receipt =>
      cases hevent
      have hcomplete := (Store.completeClaimedExecution_ok.mp hrun).2.1
      rw [hkind] at hcomplete
      cases hcomplete
  | markClaimedExecutionUnknown event' raw receipt =>
      cases hevent
      have hmark := (Store.markClaimedExecutionUnknown_ok.mp hrun).2.1
      rw [hkind] at hmark
      cases hmark
  | claimWithApproval ceremony credential verified approval claimEvent =>
      cases hevent
      obtain ⟨hcontract, -⟩ := Store.claimWithApproval_ok hrun
      have hclaim := hcontract.kind
      rw [hkind] at hclaim
      cases hclaim
  | _ => cases hevent

namespace Store.LeadsTo

variable {s s₁ s' : Store}

lemma refl (s : Store) : s.LeadsTo s := Reaches.refl

lemma trans (h : s.LeadsTo s₁) (h' : s₁.LeadsTo s') : s.LeadsTo s' := Reaches.trans h h'

lemma after {c : StoreWrite} (hc : c.isSystem = true) (s : Store) : s.LeadsTo (c.after s) :=
  Reaches.refl.tail hc rfl

lemma invariant {P : Store → Prop} (h : s.LeadsTo s') (hs : P s)
    (hstep : ∀ (c : StoreWrite) s a s', c.isSystem = true → P s → c.run s = (.ok a, s') → P s') :
    P s' := by
  refine Reaches.invariant h hs fun s₁ s₂ c hs₁ hc hstep' => ?_
  obtain rfl : c.after s₁ = s₂ := Option.some.inj hstep'
  rcases c.after_cases s₁ with hsame | ⟨a, ha⟩
  · rw [hsame]
    exact hs₁
  · exact hstep c s₁ a _ hc hs₁ ha

lemma systemInv (h : s.LeadsTo s') (hs : SystemInv s) : SystemInv s' :=
  h.invariant hs fun c s a s' hc hinv hrun => SystemInv.run c s a s' hc hinv hrun

lemma extended (h : s.LeadsTo s') : s.Extends s' :=
  h.invariant (.refl s) fun c _ a _ _ hext hrun => hext.trans (extends_run c _ a _ hrun)

/-- A final record does not change. -/
lemma final (h : s.LeadsTo s') {jobId : String} {r : JobRecord}
    (hr : s.records.find? jobId = some r) (hfinal : r.state.isFinal = true) :
    s'.records.find? jobId = some r := by
  refine h.invariant (P := fun s => s.records.find? jobId = some r) hr fun c s a s' hc hs hrun => ?_
  rcases RecordMoves.run c a hrun jobId r hs with hsame | ⟨event, r', hevent, -, happly, -⟩
  · exact hsame
  · obtain ⟨-, hmoves, -⟩ := applyTransition_ok.mp happly
    exfalso
    cases hmoves with
    | claim _ hsource => rw [hsource] at hfinal; cases hfinal
    | close _ hsource => rw [hsource] at hfinal; cases hfinal
    | complete _ hsource => rw [hsource] at hfinal; cases hfinal
    | mark _ hsource => rw [hsource] at hfinal; cases hfinal
    | reconcile hkind => exact kind_of_isSystem hc hrun hevent hkind

end Store.LeadsTo

/-! ## The job and the record of an id -/

/-- The sealed job and the record of an id. -/
structure Known (s : Store) (jobId : String) (job : SealedJob) (r : JobRecord) : Prop where
  row : ∃ submission, s.jobs.find? jobId = some ⟨job, submission⟩
  found : s.records.find? jobId = some r
  verified : verifyJob job = .ok ()
  valid : r.Valid
  id : job.jobId = jobId
  digest : job.jobDigest = r.jobDigest

namespace Known

variable {s s' : Store} {jobId : String} {job : SealedJob} {r : JobRecord}

lemma of_record (h : SystemInv s) (hr : s.records.find? jobId = some r) :
    ∃ job, Known s jobId job r := by
  have hmem := Table.mem_of_find? hr
  have hkey : r.jobId = jobId := Table.key_of_find? hr
  obtain ⟨row, hrow, hdigest⟩ := h.ledger.sealed r hmem
  rw [hkey] at hrow
  have hid := Table.key_of_find? hrow
  exact ⟨row.job, ⟨row.submission, hrow⟩, hr, h.ledger.verified row (Table.mem_of_find? hrow),
    h.valid hr, hid, hdigest⟩

lemma wellFormed (h : Known s jobId job r) : job.WellFormed :=
  wellFormed_of_seal (verifyJob_ok.mp h.verified)

lemma recordId (h : Known s jobId job r) : r.jobId = jobId := Table.key_of_find? h.found

lemma readSealed (h : Known s jobId job r) : s.readSealed jobId = .ok job := by
  obtain ⟨submission, hrow⟩ := h.row
  exact readSealed_ok.mpr ⟨_, hrow, h.verified, rfl⟩

lemma readRecord (h : Known s jobId job r) : s.readRecord jobId = .ok r :=
  readRecord_ok.mpr ⟨h.found, h.valid⟩

/-- The job stays, and its record moves on unless it is final. -/
lemma later (h : Known s jobId job r) (hs : SystemInv s) (hleads : s.LeadsTo s') :
    ∃ r', Known s' jobId job r' ∧ r.Follows r' ∧ (r.state.isFinal = true → r' = r) := by
  obtain ⟨submission, hrow⟩ := h.row
  obtain ⟨r', hr', hfollows⟩ := hleads.extended.records jobId r h.found
  refine ⟨r', ⟨⟨submission, hleads.extended.jobs jobId _ hrow⟩, hr', h.verified,
    (hleads.systemInv hs).valid hr', h.id, ?_⟩, hfollows, fun hfinal => ?_⟩
  · rw [hfollows.identity.2]
    exact h.digest
  · have hsame := hleads.final h.found hfinal
    rw [hr'] at hsame
    exact Option.some.inj hsame

end Known

/-! ## Receipts -/

/-- The kinds of receipts. -/
lemma isShort_kind_of_seal {raw : Document} {artifact : ReceiptArtifact}
    (h : sealReceipt raw = .ok artifact) : IsShort artifact.kind := by
  obtain ⟨-, -, hvalid, rfl⟩ := sealReceipt_ok.mp h
  change IsShort ((raw.value.textAt? "kind").getD "")
  unfold validateReceipt at hvalid
  split at hvalid
  · next hkind => rw [hkind]; decide
  · next hkind => rw [hkind]; decide
  · next hkind => rw [hkind]; decide
  · next hkind => rw [hkind]; decide
  · cases hvalid

/-- The current receipt of a job is retrieved. -/
lemma retrieve_of_current {s : Store} {jobId : String} {job : SealedJob} {r : JobRecord}
    {artifact : ReceiptArtifact} (hcurrent : s.currentReceipt? jobId = some (receiptRow artifact))
    (hfits : ReceiptFits job r artifact) :
    s.retrieve jobId job.jobDigest = .ok artifact := by
  unfold Store.retrieve
  simp only [except_bind_ok, orRaise_ok, require_ok, exists_const, except_pure_ok]
  refine ⟨receiptRow artifact, ?_, artifact, hfits.verified, ⟨rfl, rfl, rfl, rfl, rfl⟩,
    (), verifyReceipt_ok.mpr hfits.verified, rfl⟩
  rw [hcurrent, Option.filter_some, if_pos]
  exact decide_eq_true hfits.jobDigest

namespace Known

variable {s : Store} {jobId : String} {job : SealedJob} {r : JobRecord}

/-- A job in a final state has its receipt. -/
lemma retrieve_final (h : Known s jobId job r) (hs : SystemInv s)
    (hfinal : r.state.isFinal = true) :
    ∃ artifact, s.retrieve jobId job.jobDigest = .ok artifact ∧ ReceiptFits job r artifact := by
  obtain ⟨row, artifact, hrow, hfits, hcurrent, -⟩ := (hs.settled jobId).published r h.found hfinal
  rw [h.recordId] at hrow hcurrent
  obtain ⟨submission, hrow'⟩ := h.row
  rw [hrow] at hrow'
  cases hrow'
  exact ⟨artifact, retrieve_of_current hcurrent hfits, hfits⟩

/-- A job that is pending or running has no receipt. -/
lemma retrieve_open (h : Known s jobId job r) (hs : SystemInv s)
    (hopen : r.state.isFinal = false) (jobDigest : String) :
    s.retrieve jobId jobDigest = .error (Exn.storageNotFound jobId) := by
  have hnone : s.receiptCurrent.find? jobId = none := by
    refine ((hs.settled jobId).unpublished fun r' hr' => ?_).2
    rw [h.found] at hr'
    cases hr'
    exact hopen
  have hcurrent : s.currentReceipt? jobId = none := by
    unfold Store.currentReceipt?
    rw [hnone]
    rfl
  unfold Store.retrieve
  rw [hcurrent]
  rfl

end Known

/-! ## Summaries -/

/-- The records of jobs have their ids. -/
lemma sublist_map_jobId (s : Store) (rows : List JobRow) :
    ((rows.filterMap fun row => s.records.find? row.job.jobId).map (·.jobId)).Sublist
      (rows.map fun row => row.job.jobId) := by
  induction rows with
  | nil => exact List.Sublist.refl _
  | cons row rest ih =>
      rw [List.map_cons]
      cases hfind : s.records.find? row.job.jobId with
      | none =>
          rw [List.filterMap_cons, hfind]
          exact ih.cons _
      | some r =>
          have hkey : r.jobId = row.job.jobId := Table.key_of_find? hfind
          rw [List.filterMap_cons, hfind, List.map_cons, hkey]
          exact ih.cons_cons _

/-- The records of a lineage are not more than the rows of the ledger. -/
lemma length_lineageRecords_le {s : Store} (h : LedgerInv s) (lineageId cutoff measuredAt : String) :
    (s.lineageRecords lineageId cutoff measuredAt).length ≤ maxRowId := by
  refine le_trans ?_ h.bounded
  have hnodup : ((s.lineageRecords lineageId cutoff measuredAt).map (·.jobId)).Nodup := by
    refine s.jobs.nodup.sublist ((sublist_map_jobId s _).trans ?_)
    exact List.Sublist.map _ List.filter_sublist
  have hsub : (s.lineageRecords lineageId cutoff measuredAt).map (·.jobId) ⊆
      s.ledger.map (·.jobId) := by
    intro jobId hmem
    obtain ⟨r, hr, rfl⟩ := List.mem_map.mp hmem
    obtain ⟨row, -, hfind⟩ := List.mem_filterMap.mp hr
    have hchain := h.chain r (Table.mem_of_find? hfind)
    obtain ⟨e, he⟩ := List.exists_mem_of_ne_nil _ hchain.ne_nil
    obtain ⟨hledger, hid⟩ := List.mem_filter.mp he
    exact List.mem_map.mpr ⟨e, hledger, of_decide_eq_true hid⟩
  have hle := (List.subperm_of_subset hnodup hsub).length_le
  rwa [List.length_map, List.length_map] at hle

/-- **A lineage can be summarized** at any real time. -/
lemma lineageSummary_ok {s : Store} (h : LedgerInv s) {lineageId measuredAt : String}
    {policy : LineageFailurePolicy} (hid : isSafeId lineageId = true)
    (htime : isRealTimestamp measuredAt = true) (hwindow : policy.windowSeconds ≤ longestWindow) :
    ∃ summary, s.lineageSummary lineageId measuredAt policy = .ok summary ∧ summary.Bounded := by
  obtain ⟨cutoff, hcutoff⟩ := secondsBefore_ok htime hwindow
  have hlen := length_lineageRecords_le h lineageId cutoff measuredAt
  have hcount : ∀ n, n ≤ (s.lineageRecords lineageId cutoff measuredAt).length → IsCount n := by
    intro n hn
    unfold IsCount
    unfold maxRowId at hlen
    omega
  unfold Store.lineageSummary
  rw [hcutoff]
  refine ⟨_, rfl, isShort_of_isSafeId hid, isShort_of_isRealTimestamp htime, ?_,
    hcount _ (le_refl _), hcount _ List.countP_le_length, hcount _ List.countP_le_length,
    hcount _ List.countP_le_length, hcount _ List.countP_le_length, hcount _ List.countP_le_length,
    hcount _ List.countP_le_length, hcount _ List.countP_le_length⟩
  unfold IsCount
  unfold longestWindow at hwindow
  change policy.windowSeconds < 10 ^ 20
  omega

/-! ## Histories -/

namespace Chain

variable {entries : List LedgerEntry} {record : JobRecord}

/-- The revision of a record in each state. -/
lemma revision_le (h : Chain entries record) :
    (record.state = .pending → record.revision = 0) ∧
      (record.state = .running → record.revision ≤ 1) ∧
      (record.state = .unknown → record.revision ≤ 2) ∧ record.revision ≤ 3 := by
  induction h with
  | initial sequence hpending hrevision hvalid =>
      rw [hpending, hrevision]
      exact ⟨fun _ => rfl, nofun, nofun, by omega⟩
  | append sequence chain happly hfresh ih =>
      obtain ⟨-, hmoves, -⟩ := applyTransition_ok.mp happly
      obtain ⟨hpending, hrunning, hunknown, hle⟩ := ih
      cases hmoves with
      | claim _ hsource _ _ _ hres =>
          have hrev := hpending hsource
          subst hres
          exact ⟨nofun, fun _ => by simp [updatedRecord, hrev], nofun,
            by simp [updatedRecord, hrev]⟩
      | close _ hsource _ _ _ _ _ hres =>
          have hrev := hpending hsource
          subst hres
          exact ⟨nofun, nofun, nofun, by simp [updatedRecord, hrev]⟩
      | complete _ hsource _ _ _ _ _ _ hres =>
          have hrev := hrunning hsource
          subst hres
          exact ⟨nofun, nofun, nofun, by simp only [updatedRecord]; omega⟩
      | mark _ hsource _ _ _ _ hres =>
          have hrev := hrunning hsource
          subst hres
          exact ⟨nofun, nofun, fun _ => by simp only [updatedRecord]; omega,
            by simp only [updatedRecord]; omega⟩
      | reconcile _ hsource _ _ _ _ _ _ hres =>
          have hrev := hunknown hsource
          subst hres
          exact ⟨nofun, nofun, nofun, by simp only [updatedRecord]; omega⟩

/-- The texts of a chain are short. -/
lemma bounded (h : Chain entries record) (hsequence : ∀ e ∈ entries, IsCount e.sequence) :
    ∀ e ∈ entries, e.Bounded := by
  have hall := h.revision_le
  induction h with
  | initial sequence hpending hrevision hvalid =>
      intro e he
      have hseq := hsequence e he
      rw [List.mem_singleton] at he
      subst he
      have haction : IsShort "sealed_pending" := by decide
      refine ⟨haction, isShort_of_isSafeId hvalid.lastEventId, isShort_state .pending,
        isShort_of_isRealTimestamp hvalid.lastChangedAt, nofun, nofun, nofun, ?_, hseq⟩
      unfold IsCount
      change 0 < _
      norm_num
  | @append entries prior updated event sequence chain happly hfresh ih =>
      obtain ⟨hchecked, -, hvalid⟩ := applyTransition_ok.mp happly
      intro e he
      have hseq := hsequence e he
      rcases List.mem_append.mp he with hold | hnew
      · exact ih (fun e he => hsequence e (List.mem_append_left _ he)) chain.revision_le e hold
      · rw [List.mem_singleton] at hnew
        subst hnew
        refine ⟨isShort_kind _, isShort_of_isSafeId hchecked.eventId, isShort_state _,
          isShort_of_isRealTimestamp hchecked.occurredAt, ?_, ?_, isShort_outcome, ?_, hseq⟩
        · rintro s hs
          cases hs
          exact isShort_state _
        · exact fun s hs => isShort_of_isSafeId (hvalid.reasonCode s hs)
        · unfold IsCount
          change updated.revision < _
          omega

/-- The last row of a chain has the revision of its record. -/
lemma getLast?_revision (h : Chain entries record) :
    entries.getLast?.map (·.recordRevision) = some record.revision := by
  cases h with
  | initial sequence hpending hrevision hvalid =>
      rw [hrevision]
      rfl
  | append sequence chain happly hfresh =>
      rw [List.getLast?_append]
      rfl

end Chain

/-! ## Projections -/

/-- What the history of a job is. -/
structure HistoryFits (job : SealedJob) (r : JobRecord) (entries : List LedgerEntry) : Prop where
  projected : historyProjection job entries = .ok ⟨job.jobId, job.jobDigest, entries⟩
  length : entries.length ≤ 4
  bounded : ∀ e ∈ entries, e.Bounded
  last : entries.getLast?.map (·.recordRevision) = some r.revision

namespace Known

variable {s : Store} {jobId : String} {job : SealedJob} {r : JobRecord}

lemma chain (h : Known s jobId job r) (hs : SystemInv s) : Chain (entriesOf s jobId) r := by
  have hchain := hs.ledger.chain r (Table.mem_of_find? h.found)
  rwa [h.recordId] at hchain

lemma revision (h : Known s jobId job r) (hs : SystemInv s) : IsCount r.revision := by
  have hle := (h.chain hs).revision_le.2.2.2
  unfold IsCount
  omega

/-- **The ledger of a job is its history.** -/
lemma readLedger (h : Known s jobId job r) (hs : SystemInv s) :
    ∃ entries, s.readLedger jobId = .ok entries ∧ HistoryFits job r entries := by
  have hread := hs.ledger.readLedger (Table.mem_of_find? h.found)
  have hchain := h.chain hs
  obtain ⟨hsorted, hpos⟩ := hs.ledger.sequence_entriesOf jobId
  have hlen := hchain.revisions.2
  have hrev := hchain.revision_le.2.2.2
  rw [h.recordId] at hread
  refine ⟨_, hread, ?_, by omega, ?_, hchain.getLast?_revision⟩
  · have hid : job.jobId = r.jobId := h.id.trans h.recordId.symm
    exact hchain.historyProjection_eq hid h.digest hsorted hpos
  · refine hchain.bounded fun e he => ?_
    have hmem : e.sequence ∈ s.ledger.map (·.sequence) :=
      List.mem_map_of_mem (List.mem_of_mem_filter he)
    have hbound := hs.ledger.bounded
    rw [hs.ledger.sequence, List.mem_range'_1] at hmem
    unfold IsCount
    unfold maxRowId at hbound
    omega

end Known

section projection

variable {job : SealedJob} {r : JobRecord} {receipt : Option ReceiptArtifact}
    {lineage : Option LineageSummary}

/-- **A status is projected** from a record and a receipt that fits it, or from a record alone. -/
lemma statusProjection_ok (hvalid : r.Valid) (hid : r.jobId = job.jobId)
    (hdigest : r.jobDigest = job.jobDigest)
    (hreceipt : ∀ artifact ∈ receipt, r.state.isFinal = true ∧ ReceiptFits job r artifact) :
    statusProjection job r receipt lineage =
      .ok ⟨job, r, lineage, receipt.map fun a => (a.kind, a.receiptDigest)⟩ := by
  unfold statusProjection
  simp only [except_bind_ok, require_ok, exists_const, validateRecord_ok]
  refine ⟨hvalid, ⟨hid, hdigest⟩, ?_⟩
  cases receipt with
  | none => rfl
  | some artifact =>
      obtain ⟨hfinal, hfits⟩ := hreceipt artifact rfl
      rw [except_bind_ok]
      refine ⟨(), ?_, rfl⟩
      unfold checkStatusReceipt
      simp only [except_bind_ok, require_ok, exists_const]
      refine ⟨artifact, ?_, rfl, ⟨hfits.jobId, hfits.jobDigest, hfits.operationId, hfits.requestId,
        hfits.replyTarget⟩, hfinal, hfits.unknown, hfits.terminal, hfits.outcome, hfits.reason⟩
      rw [hfits.verified]
      rfl

/-- A record that is not final does not go with a receipt. -/
lemma statusProjection_open (hopen : r.state.isFinal = false) (artifact : ReceiptArtifact) :
    ∀ status, statusProjection job r (some artifact) lineage ≠ .ok status := by
  intro status h
  unfold statusProjection at h
  simp only [except_bind_ok] at h
  obtain ⟨-, -, -, -, _, hcheck, -⟩ := h
  unfold checkStatusReceipt at hcheck
  simp only [except_bind_ok, require_ok, exists_const] at hcheck
  obtain ⟨-, -, -, -, hfinal, -⟩ := hcheck
  rw [hopen] at hfinal
  cases hfinal

omit [UnicodeData] in
lemma isDigest_projectionDigestOf (payload : Json) :
    isDigest (projectionDigestOf payload) = true := isDigest_sha256Digest _

/-- **The public projection is built** from a status, a history and a receipt of the job. -/
lemma buildPublicProjection_ok {entries : List LedgerEntry} {r' : JobRecord}
    (hjob : job.WellFormed) (hvalid : r.Valid) (hrevision : IsCount r.revision)
    (hlineage : ∀ summary ∈ lineage, summary.Bounded) (hhistory : HistoryFits job r' entries)
    (hreceipt : ∀ artifact ∈ receipt, ReceiptFits job r artifact) :
    ∃ digest, buildPublicProjection job.jobId job.jobDigest
      ⟨job, r, lineage, receipt.map fun a => (a.kind, a.receiptDigest)⟩
      ⟨job.jobId, job.jobDigest, entries⟩ receipt =
        .ok ⟨job.jobId, job.jobDigest,
          ⟨job, r, lineage, receipt.map fun a => (a.kind, a.receiptDigest)⟩,
          ⟨job.jobId, job.jobDigest, entries⟩, receipt.map (·.canonicalReceipt), digest⟩ := by
  have hid := isShort_of_isSafeId hjob.jobId
  have hdigest := isShort_of_isDigest hjob.jobDigest
  have hstatus : StatusProjection.Bounded
      ⟨job, r, lineage, receipt.map fun a => (a.kind, a.receiptDigest)⟩ := by
    refine ⟨hjob, hvalid, hrevision, hlineage, fun pair hpair => ?_⟩
    obtain ⟨artifact, hartifact, rfl⟩ := Option.map_eq_some_iff.mp hpair
    have hseal := (hreceipt artifact hartifact).verified
    refine ⟨isShort_kind_of_seal hseal, isShort_of_isDigest ?_⟩
    obtain ⟨-, -, -, heq⟩ := sealReceipt_ok.mp hseal
    rw [heq]
    exact isDigest_sha256Digest _
  have hsize := @size_history ⟨job.jobId, job.jobDigest, entries⟩ hhistory.length
    hhistory.bounded hid hdigest
  have hlen : ∀ value ∈ receipt.map (·.canonicalReceipt),
      (canonicalManifestBytes value).length ≤ maxReceiptBytes := by
    intro value hvalue
    obtain ⟨artifact, hartifact, rfl⟩ := Option.map_eq_some_iff.mp hvalue
    exact (sealReceipt_ok.mp (hreceipt artifact hartifact).verified).1.2
  have hfit := fun payload => length_publicEnvelope_le hid hdigest
    (isShort_of_isDigest (isDigest_projectionDigestOf payload)) hstatus hsize hlen
  unfold buildPublicProjection
  cases receipt with
  | none =>
      simp only [except_bind_ok, require_ok, exists_const, except_pure_ok]
      exact ⟨_, ⟨trivial, trivial, trivial, trivial⟩, trivial, hfit _, rfl⟩
  | some artifact =>
      have hfits := hreceipt artifact rfl
      simp only [except_bind_ok, require_ok, exists_const, except_pure_ok]
      exact ⟨_, ⟨trivial, trivial, trivial, trivial⟩, artifact, hfits.verified, rfl, ⟨hfits.jobId,
        hfits.jobDigest, hfits.requestId, hfits.replyTarget⟩, hfit _, rfl⟩

end projection

end AgentRuntimeOps.RootActions
