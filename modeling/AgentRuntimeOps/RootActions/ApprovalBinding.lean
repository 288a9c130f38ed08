import AgentRuntimeOps.RootActions.LedgerReplay
import AgentRuntimeOps.RootActions.StoreHistory

/-!
# Approvals are bound to what they approved

An approval is written by `claim_with_approval` only, in the transaction that consumes its ceremony
and claims its job.  `ApprovalBound s approval` collects what that transaction leaves behind, and
every later call keeps it because it extends the store (`ApprovalBound.of_extends`).
-/

set_option linter.unusedSectionVars false

namespace AgentRuntimeOps.RootActions

open AgentRuntimeOps.Lib Connection

variable [UnicodeData] {s s' : Store}

/-! ## Bound approvals -/

/-- One call wrote the approval and the ledger row, on the way to `s`. -/
def WrittenTogether (s : Store) (approval : ApprovalRecord) (entry : LedgerEntry) : Prop :=
  ∃ (before : Store) (w : StoreWrite), Reachable before ∧
    Reaches storeStep AnyStep (w.after before) s ∧
    approval ∉ before.approvals.rows ∧ approval ∈ (w.after before).approvals.rows ∧
    entry ∉ before.ledger ∧ entry ∈ (w.after before).ledger

/-- The approval is bound to its ceremony, its credential and its claim. -/
structure ApprovalBound (s : Store) (approval : ApprovalRecord) : Prop where
  /-- The ceremony is consumed, was issued for the approved job, was still open and names the
  credential. -/
  ceremony : ∃ c, s.ceremonies.find? approval.ceremonyId = some c ∧ c.state = .consumed ∧
    c.purpose = .approval ∧ c.jobId = some approval.jobId ∧ c.jobDigest = some approval.jobDigest ∧
    approval.verifiedAt < c.expiresAt ∧
    c.credentialFingerprint = some approval.credentialFingerprint
  /-- The credential is there and may approve. -/
  credential : ∃ row ∈ s.credentials.rows,
    row.credentialFingerprint = approval.credentialFingerprint ∧ row.credential.role = .approval
  /-- The job executes at most this once. -/
  claimed : ∃ record, s.records.find? approval.jobId = some record ∧
    record.jobDigest = approval.jobDigest ∧ record.executionCount = 1
  /-- The claim was written together with the approval. -/
  entry : ∃ e ∈ s.ledger, e.action = TransitionKind.claimExecution.value ∧
    e.jobId = approval.jobId ∧ e.jobDigest = approval.jobDigest ∧ WrittenTogether s approval e

/-- What a later store keeps of an approval. -/
lemma ApprovalBound.of_extends {approval : ApprovalRecord} (h : ApprovalBound s approval)
    (hext : s.Extends s') (hreaches : Reaches storeStep AnyStep s s') :
    ApprovalBound s' approval := by
  refine ⟨?_, ?_, ?_, ?_⟩
  · obtain ⟨c, hc, hconsumed, hrest⟩ := h.ceremony
    exact ⟨c, hext.ceremonies _ c hc hconsumed, hconsumed, hrest⟩
  · obtain ⟨row, hrow, hprint, hrole⟩ := h.credential
    obtain ⟨row', hrow', hprint', hrole'⟩ := hext.credentials row hrow
    exact ⟨row', hrow', hprint'.trans hprint, hrole'.trans hrole⟩
  · obtain ⟨record, hrecord, hdigest, hcount⟩ := h.claimed
    obtain ⟨record', hrecord', hfollows⟩ := hext.records _ record hrecord
    exact ⟨record', hrecord', hfollows.identity.2.trans hdigest, hfollows.count hcount⟩
  · obtain ⟨e, he, haction, hid, hdigest, before, w, hbefore, hafter, hrest⟩ := h.entry
    exact ⟨e, hext.ledger.subset he, haction, hid, hdigest, before, w, hbefore,
      hafter.trans hreaches, hrest⟩

/-! ## The claim -/

/-- What a successful `claim_with_approval` leaves behind, and what its job looked like before. -/
lemma approvalBound_of_claim {ceremony : PendingCeremony} {credential : RegisteredCredential}
    {verified : VerifiedAssertion} {approval : ApprovalRecord} {claimEvent : TransitionEvent}
    {record : JobRecord} (hs : Reachable s)
    (hrun : Store.claimWithApproval ceremony credential verified approval claimEvent s =
      (.ok record, s')) :
    ApprovalBound s' approval ∧ s.approvals.insert? approval = some s'.approvals ∧
      (∀ a ∈ s.approvals.rows, a.ceremonyId ≠ approval.ceremonyId) ∧
      ∃ current, s.records.find? approval.jobId = some current ∧ current.executionCount = 0 := by
  obtain ⟨hcontract, hceremony, hexpires, hcredential, s₁, s₂, s₃, rfl, rfl, hins, happend⟩ :=
    Store.claimWithApproval_ok hrun
  obtain ⟨approvals, hfresh, happrovals, rfl⟩ := (insertApproval_ok hcontract.userVerified).mp hins
  obtain ⟨hpurpose, hissued, hrole, -, -, -, -, -, -, hid, hjob, hdigest, hprint, -, -, hkind,
    hclaimJob, hclaimDigest⟩ := hcontract
  obtain ⟨hstored, -⟩ := readCeremony_ok.mp hceremony
  obtain ⟨hrow, -⟩ := readCredential_ok.mp hcredential
  obtain ⟨current, hcurrent, happly, heventFresh, -, rfl⟩ := compareAndAppend_ok.mp happend
  have hjobId : claimEvent.jobId = approval.jobId := by
    rw [← hclaimJob] at hjob
    exact (Option.some.inj hjob).symm
  have hjobDigest : claimEvent.jobDigest = approval.jobDigest := by
    rw [← hclaimDigest] at hdigest
    exact (Option.some.inj hdigest).symm
  obtain ⟨hchecked, hmoves, -⟩ := applyTransition_ok.mp happly
  obtain ⟨hupdatedId, hupdatedDigest, -⟩ := identity_of_transition happly
  have hid' : record.jobId = approval.jobId := by rw [hupdatedId, ← hchecked.jobId, hjobId]
  have hdigest' : record.jobDigest = approval.jobDigest := by
    rw [hupdatedDigest, ← hchecked.jobDigest, hjobDigest]
  have hcounts : current.executionCount = 0 ∧ record.executionCount = 1 := by
    cases hmoves with
    | claim _ _ hcount _ _ hres => subst hres; exact ⟨hcount, rfl⟩
    | close hk => rw [hkind] at hk; cases hk
    | complete hk => rw [hkind] at hk; cases hk
    | mark hk => rw [hkind] at hk; cases hk
    | reconcile hk => rw [hkind] at hk; cases hk
  have hfound : s.records.find? record.jobId = some current := by
    rw [hid', ← hjobId]
    exact hcurrent
  have hafter := StoreWrite.after_of_ok
    (w := .claimWithApproval ceremony credential verified approval claimEvent) hrun
  refine ⟨⟨?_, ?_, ?_, ?_⟩, happrovals, hfresh, current, by rw [← hjobId]; exact hcurrent, hcounts.1⟩
  · -- The ceremony was found issued and is now consumed by the credential.
    refine ⟨assignConsumed approval.verifiedAt credential.fingerprint ceremony, ?_, rfl, hpurpose,
      hjob.symm, hdigest.symm, hexpires, congrArg some hprint.symm⟩
    change (consumedCeremonies _ _ _ _).find? _ = _
    unfold consumedCeremonies
    rw [Table.find?_updateWhere, hid]
    change (s.ceremonies.find? ceremony.ceremonyId).map _ = _
    rw [hstored, Option.map_some, if_pos (by simp [hissued])]
  · have hmem := Table.mem_of_find? hrow
    obtain ⟨row', hrow', hprint', hrole'⟩ :=
      (Store.Extends.advanceSignCount (s := s) credential verified).credentials _ hmem
    exact ⟨row', hrow', hprint'.trans hprint.symm, hrole'.trans hrole⟩
  · refine ⟨record, ?_, hdigest', hcounts.2⟩
    change (updatedRecords s current record).find? approval.jobId = some record
    rw [find?_updatedRecords hfound hupdatedDigest, if_pos hid'.symm]
  · refine ⟨transitionEntry current record claimEvent (s.ledger.length + 1), ?_, ?_, hid', hdigest',
      s, .claimWithApproval ceremony credential verified approval claimEvent, hs, ?_, ?_, ?_, ?_, ?_⟩
    · exact List.mem_append_right _ (List.mem_singleton.mpr rfl)
    · exact congrArg TransitionKind.value hkind
    · rw [hafter]
      exact .refl
    · intro hmem
      exact hfresh approval hmem rfl
    · rw [hafter]
      exact (Table.mem_insert? happrovals).mpr (.inr rfl)
    · intro hmem
      exact heventFresh _ hmem (hid'.trans hjobId.symm) rfl
    · rw [hafter]
      exact List.mem_append_right _ (List.mem_singleton.mpr rfl)

/-! ## The invariant -/

/-- **The approval invariant.** -/
structure ApprovalInv (s : Store) : Prop where
  reachable : Reachable s
  bound : ∀ a ∈ s.approvals.rows, ApprovalBound s a
  /-- A ceremony yields one approval. -/
  perCeremony : ∀ a ∈ s.approvals.rows, ∀ b ∈ s.approvals.rows, a.ceremonyId = b.ceremonyId → a = b
  /-- A job gets one approval. -/
  perJob : ∀ a ∈ s.approvals.rows, ∀ b ∈ s.approvals.rows, a.jobId = b.jobId → a = b
  /-- A fingerprint names one credential. -/
  fingerprints : ∀ row ∈ s.credentials.rows, ∀ row' ∈ s.credentials.rows,
    row.credentialFingerprint = row'.credentialFingerprint → row = row'

namespace ApprovalInv

lemma empty : ApprovalInv Store.empty := by
  refine ⟨.refl, ?_, ?_, ?_, ?_⟩
  · intro a ha
    cases ha
  · intro a ha
    cases ha
  · intro a ha
    cases ha
  · intro row hrow
    cases hrow

/-- A call that writes no approval. -/
lemma of_approvals_eq (h : ApprovalInv s) (hext : s.Extends s')
    (hreaches : Reaches storeStep AnyStep s s') (happrovals : s'.approvals = s.approvals)
    (hprints : ∀ row ∈ s'.credentials.rows, ∀ row' ∈ s'.credentials.rows,
      row.credentialFingerprint = row'.credentialFingerprint → row = row') : ApprovalInv s' := by
  refine ⟨h.reachable.trans hreaches, ?_, ?_, ?_, hprints⟩
  · rw [happrovals]
    intro a ha
    exact (h.bound a ha).of_extends hext hreaches
  · rw [happrovals]
    exact h.perCeremony
  · rw [happrovals]
    exact h.perJob

lemma fingerprints_insertCredential {credential : RegisteredCredential} (h : ApprovalInv s)
    (hins : insertCredential credential s = (.ok (), s')) :
    ∀ row ∈ s'.credentials.rows, ∀ row' ∈ s'.credentials.rows,
      row.credentialFingerprint = row'.credentialFingerprint → row = row' := by
  obtain ⟨credentials, hfresh, hrow, rfl⟩ := insertCredential_ok.mp hins
  intro row hr row' hr' heq
  rcases (Table.mem_insert? hrow).mp hr with hr | rfl
  · rcases (Table.mem_insert? hrow).mp hr' with hr' | rfl
    · exact h.fingerprints row hr row' hr' heq
    · exact absurd heq (hfresh row hr).1
  · rcases (Table.mem_insert? hrow).mp hr' with hr' | rfl
    · exact absurd heq.symm (hfresh row' hr').1
    · rfl

lemma fingerprints_advanceSignCount (h : ApprovalInv s) (credential : RegisteredCredential)
    (verified : VerifiedAssertion) :
    ∀ row ∈ (advancedCredentials s credential verified).rows,
      ∀ row' ∈ (advancedCredentials s credential verified).rows,
      row.credentialFingerprint = row'.credentialFingerprint → row = row' := by
  unfold advancedCredentials
  intro row hr row' hr' heq
  obtain ⟨old, hold, rfl⟩ := Table.mem_updateWhere.mp hr
  obtain ⟨old', hold', rfl⟩ := Table.mem_updateWhere.mp hr'
  have hprint : ∀ x : CredentialRow, ∀ p : Bool,
      (if p then assignSignCount verified x else x).credentialFingerprint =
        x.credentialFingerprint := by
    intro x p
    cases p
    · rfl
    · rfl
  rw [hprint, hprint] at heq
  rw [h.fingerprints old hold old' hold' heq]

/-- The claim adds one approval, for a ceremony and a job that had none. -/
lemma claim {ceremony : PendingCeremony} {credential : RegisteredCredential}
    {verified : VerifiedAssertion} {approval : ApprovalRecord} {claimEvent : TransitionEvent}
    {record : JobRecord} (h : ApprovalInv s) (hreaches : Reaches storeStep AnyStep s s')
    (hext : s.Extends s')
    (hrun : Store.claimWithApproval ceremony credential verified approval claimEvent s =
      (.ok record, s')) : ApprovalInv s' := by
  obtain ⟨hbound, hins, hfresh, current, hcurrent, hcount⟩ := approvalBound_of_claim h.reachable hrun
  -- An approved job has been claimed, and this one has not.
  have hjob : ∀ a ∈ s.approvals.rows, a.jobId ≠ approval.jobId := by
    intro a ha heq
    obtain ⟨claimed, hclaimed, -, hone⟩ := (h.bound a ha).claimed
    rw [heq, hcurrent] at hclaimed
    cases hclaimed
    omega
  have hmem : ∀ a, a ∈ s'.approvals.rows ↔ a ∈ s.approvals.rows ∨ a = approval := fun _ =>
    Table.mem_insert? hins
  refine ⟨h.reachable.trans hreaches, ?_, ?_, ?_, ?_⟩
  · intro a ha
    rcases (hmem a).mp ha with ha | rfl
    · exact (h.bound a ha).of_extends hext hreaches
    · exact hbound
  · intro a ha b hb heq
    rcases (hmem a).mp ha with ha | rfl
    · rcases (hmem b).mp hb with hb | rfl
      · exact h.perCeremony a ha b hb heq
      · exact absurd heq (hfresh a ha)
    · rcases (hmem b).mp hb with hb | rfl
      · exact absurd heq.symm (hfresh b hb)
      · rfl
  · intro a ha b hb heq
    rcases (hmem a).mp ha with ha | rfl
    · rcases (hmem b).mp hb with hb | rfl
      · exact h.perJob a ha b hb heq
      · exact absurd heq (hjob a ha)
    · rcases (hmem b).mp hb with hb | rfl
      · exact absurd heq.symm (hjob b hb)
      · rfl
  · obtain ⟨hcontract, -, -, -, s₁, s₂, s₃, rfl, rfl, happroval, happend⟩ :=
      Store.claimWithApproval_ok hrun
    obtain ⟨approvals, -, -, rfl⟩ := (insertApproval_ok hcontract.userVerified).mp happroval
    obtain ⟨current, -, -, -, -, rfl⟩ := compareAndAppend_ok.mp happend
    exact h.fingerprints_advanceSignCount credential verified

/-- **Every method keeps the approval invariant.** -/
theorem run (w : StoreWrite) (s : Store) (r : w.Res) (s' : Store) (h : ApprovalInv s)
    (hrun : w.run s = (.ok r, s')) : ApprovalInv s' := by
  have hext := extends_run w s r s' hrun
  have hreaches : Reaches storeStep AnyStep s s' :=
    Reaches.tail .refl trivial (congrArg some (StoreWrite.after_of_ok hrun))
  by_cases hauth : w.isAuth = true
  · cases w with
    | createAuthBootstrap session =>
        obtain ⟨-, -, _, bootstraps, -, -, rfl⟩ := Store.createAuthBootstrap_ok hrun
        exact h.of_approvals_eq hext hreaches rfl h.fingerprints
    | issueRegistrationCeremony tokenDigest ceremony =>
        obtain ⟨-, hins⟩ := Store.issueRegistrationCeremony_ok hrun
        obtain ⟨ceremonies, -, -, rfl⟩ := insertCeremony_ok.mp hins
        exact h.of_approvals_eq hext hreaches rfl h.fingerprints
    | completeRegistration tokenDigest ceremonyId credential consumedAt =>
        obtain ⟨-, ceremony, bootstrap, s₁, s₂, -, -, -, -, -, -, -, hins, rfl, rfl⟩ :=
          Store.completeRegistration_ok hrun
        have hprints := h.fingerprints_insertCredential hins
        obtain ⟨credentials, -, -, rfl⟩ := insertCredential_ok.mp hins
        exact h.of_approvals_eq hext hreaches rfl hprints
    | issueApprovalCeremony ceremony =>
        obtain ⟨-, -, -, -, hins⟩ := Store.issueApprovalCeremony_ok hrun
        obtain ⟨ceremonies, -, -, rfl⟩ := insertCeremony_ok.mp hins
        exact h.of_approvals_eq hext hreaches rfl h.fingerprints
    | claimWithApproval ceremony credential verified approval claimEvent =>
        exact h.claim hreaches hext hrun
    | _ => cases hauth
  · have htables := authTables_run w r (by simpa using hauth) hrun
    have happrovals : s'.approvals = s.approvals := congrArg AuthTables.approvals htables
    have hcredentials : s'.credentials = s.credentials := congrArg AuthTables.credentials htables
    refine h.of_approvals_eq hext hreaches happrovals ?_
    rw [hcredentials]
    exact h.fingerprints

theorem of_reachable (h : Reachable s) : ApprovalInv s :=
  ReachableBy.induction h empty fun w s r s' _ hs hrun => run w s r s' hs hrun

end ApprovalInv

end AgentRuntimeOps.RootActions
