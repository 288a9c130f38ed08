import AgentRuntimeOps.RootActions.StoreSpecs

/-!
# What the authorization methods do

The counterpart of `StoreSpecs` for the tables of `_AUTH_SCHEMA`: one lemma for each statement and
one for each method, in terms of the statements it is made of.
-/

set_option linter.unusedSectionVars false

namespace AgentRuntimeOps.RootActions

open AgentRuntimeOps.Lib

/-! ## Reading -/

section reading

variable {s : Store}

lemma bootstrapByToken_ok {tokenDigest : String} {session : BootstrapSession} :
    s.bootstrapByToken tokenDigest = .ok session ↔
      s.bootstraps.rows.find? (·.tokenDigest = tokenDigest) = some session ∧
        session.postInit = .ok () := by
  unfold Store.bootstrapByToken
  simp only [except_bind_ok, orRaise_ok, except_pure_ok]
  constructor
  · rintro ⟨row, hrow, _, hinit, rfl⟩
    exact ⟨hrow, hinit⟩
  · rintro ⟨hrow, hinit⟩
    exact ⟨session, hrow, (), hinit, rfl⟩

lemma readCeremony_ok {ceremonyId : String} {ceremony : PendingCeremony} :
    s.readCeremony ceremonyId = .ok ceremony ↔
      s.ceremonies.find? ceremonyId = some ceremony ∧ ceremony.postInit = .ok () := by
  unfold Store.readCeremony
  simp only [except_bind_ok, orRaise_ok, except_pure_ok]
  constructor
  · rintro ⟨row, hrow, _, hinit, rfl⟩
    exact ⟨hrow, hinit⟩
  · rintro ⟨hrow, hinit⟩
    exact ⟨ceremony, hrow, (), hinit, rfl⟩

lemma readCredential_ok {credentialId : List UInt8} {credential : RegisteredCredential} :
    s.readCredential credentialId = .ok credential ↔
      s.credentials.find? credentialId = some ⟨credential, credential.fingerprint⟩ ∧
        credential.postInit = .ok () := by
  unfold Store.readCredential Store.credentialFromRow
  simp only [except_bind_ok, orRaise_ok, require_ok, exists_const, except_pure_ok]
  constructor
  · rintro ⟨row, hrow, _, hinit, hfingerprint, rfl⟩
    refine ⟨?_, hinit⟩
    rw [hrow, hfingerprint]
  · rintro ⟨hrow, hinit⟩
    exact ⟨_, hrow, (), hinit, rfl, rfl⟩

/-- What the constructor of a bootstrap session guarantees. -/
lemma postInit_bootstrap {session : BootstrapSession} (h : session.postInit = .ok ()) :
    session.remainingRegistrations ≤ 3 ∧
      (session.state = .issued → 1 ≤ session.remainingRegistrations) ∧
      (session.state = .consumed → session.remainingRegistrations = 0) := by
  unfold BootstrapSession.postInit at h
  simp only [except_bind_ok, require_ok, exists_const] at h
  obtain ⟨_, -, _, -, _, -, _, -, -, h₁, h₂, h₃⟩ := h
  exact ⟨h₁, h₂, h₃⟩

end reading

/-! ## Statements -/

namespace Connection

variable {s s' : Store} {u : Unit}

lemma insertCredential_ok {credential : RegisteredCredential} :
    insertCredential credential s = (.ok u, s') ↔
      ∃ credentials,
        (∀ row ∈ s.credentials.rows, row.credentialFingerprint ≠ credential.fingerprint ∧
          (credential.revokedAt = none → row.credential.revokedAt = none →
            row.credential.label ≠ credential.label)) ∧
        s.credentials.insert? ⟨credential, credential.fingerprint⟩ = some credentials ∧
        s' = { s with credentials := credentials } := by
  unfold insertCredential
  rw [Tx.writes_ok]
  simp only [except_bind_ok, insertRow_ok, except_pure_ok, Bool.or_eq_false_iff,
    Bool.and_eq_false_iff, decide_eq_false_iff_not, Option.isNone_eq_false_iff,
    Option.isSome_iff_ne_none]
  constructor
  · rintro ⟨credentials, ⟨h₁, h₂⟩, rfl⟩
    refine ⟨credentials, fun row hrow => ⟨(h₁ row hrow).1, fun hc hr => ?_⟩, h₂, rfl⟩
    rcases (h₁ row hrow).2 with (hne | hne) | hne
    · exact absurd hc hne
    · exact absurd hr hne
    · exact hne
  · rintro ⟨credentials, h₁, h₂, rfl⟩
    refine ⟨credentials, ⟨fun row hrow => ⟨(h₁ row hrow).1, ?_⟩, h₂⟩, rfl⟩
    by_cases hc : credential.revokedAt = none
    · by_cases hr : row.credential.revokedAt = none
      · exact .inr ((h₁ row hrow).2 hc hr)
      · exact .inl (.inr hr)
    · exact .inl (.inl hc)

lemma insertCeremony_ok {ceremony : PendingCeremony} :
    insertCeremony ceremony s = (.ok u, s') ↔
      ∃ ceremonies,
        (∀ row ∈ s.ceremonies.rows, row.challengeDigest ≠ ceremony.challengeDigest) ∧
        s.ceremonies.insert? ceremony = some ceremonies ∧
        s' = { s with ceremonies := ceremonies } := by
  unfold insertCeremony
  rw [Tx.writes_ok]
  simp only [except_bind_ok, insertRow_ok, except_pure_ok, decide_eq_false_iff_not]
  constructor
  · rintro ⟨ceremonies, ⟨h₁, h₂⟩, rfl⟩
    exact ⟨ceremonies, h₁, h₂, rfl⟩
  · rintro ⟨ceremonies, h₁, h₂, rfl⟩
    exact ⟨ceremonies, ⟨h₁, h₂⟩, rfl⟩

/-- The ceremonies after one of them is consumed. -/
def consumedCeremonies (s : Store) (ceremonyId consumedAt fingerprint : String) :
    Table PendingCeremony String (fun row => row.ceremonyId) :=
  s.ceremonies.updateWhere (fun row => row.ceremonyId = ceremonyId && row.state = .issued)
    (assignConsumed consumedAt fingerprint) (ceremonyId_assignConsumed consumedAt fingerprint)

lemma consumeCeremony_ok {ceremonyId consumedAt fingerprint message : String}
    (h : consumeCeremony ceremonyId consumedAt fingerprint message s = (.ok u, s')) :
    s' = { s with ceremonies := consumedCeremonies s ceremonyId consumedAt fingerprint } := by
  unfold consumeCeremony at h
  rw [Tx.writes_ok] at h
  simp only [except_bind_ok, updateOne_ok, except_pure_ok] at h
  obtain ⟨ceremonies, ⟨-, rfl⟩, rfl⟩ := h
  rfl

/-- The bootstrap sessions after a registration is counted down. -/
def countedBootstraps (s : Store) (bootstrap : BootstrapSession) :
    Table BootstrapSession String (fun row => row.bootstrapId) :=
  s.bootstraps.updateWhere
    (fun row => row.bootstrapId = bootstrap.bootstrapId && row.state = .issued &&
      row.remainingRegistrations = bootstrap.remainingRegistrations)
    (assignRemaining (bootstrap.remainingRegistrations - 1))
    (bootstrapId_assignRemaining (bootstrap.remainingRegistrations - 1))

lemma countRegistration_ok {bootstrap : BootstrapSession}
    (h : countRegistration bootstrap s = (.ok u, s')) :
    s' = { s with bootstraps := countedBootstraps s bootstrap } := by
  unfold countRegistration at h
  rw [Tx.writes_ok] at h
  simp only [except_bind_ok, updateOne_ok, except_pure_ok] at h
  obtain ⟨bootstraps, ⟨-, rfl⟩, rfl⟩ := h
  rfl

/-- The credentials after a signature counter moved. -/
def advancedCredentials (s : Store) (credential : RegisteredCredential)
    (verified : VerifiedAssertion) :
    Table CredentialRow (List UInt8) (fun row => row.credential.credentialId) :=
  s.credentials.updateWhere
    (fun row => row.credential.credentialId = credential.credentialId &&
      row.credential.signCount = credential.signCount && row.credential.revokedAt.isNone)
    (assignSignCount verified) (credentialId_assignSignCount verified)

lemma advanceSignCount_ok {credential : RegisteredCredential} {verified : VerifiedAssertion}
    (h : advanceSignCount credential verified s = (.ok u, s')) :
    s' = { s with credentials := advancedCredentials s credential verified } := by
  unfold advanceSignCount at h
  rw [Tx.writes_ok] at h
  simp only [except_bind_ok, updateOne_ok, except_pure_ok] at h
  obtain ⟨credentials, ⟨-, rfl⟩, rfl⟩ := h
  rfl

lemma insertApproval_ok {approval : ApprovalRecord} (hverified : approval.userVerified = true) :
    insertApproval approval s = (.ok u, s') ↔
      ∃ approvals, (∀ row ∈ s.approvals.rows, row.ceremonyId ≠ approval.ceremonyId) ∧
        s.approvals.insert? approval = some approvals ∧ s' = { s with approvals := approvals } := by
  have hrow : ({ approval with userVerified := true } : ApprovalRecord) = approval := by
    cases approval
    simp_all
  unfold insertApproval
  rw [Tx.writes_ok]
  simp only [except_bind_ok, insertRow_ok, except_pure_ok, decide_eq_false_iff_not, hrow]
  constructor
  · rintro ⟨approvals, ⟨h₁, h₂⟩, rfl⟩
    exact ⟨approvals, h₁, h₂, rfl⟩
  · rintro ⟨approvals, h₁, h₂, rfl⟩
    exact ⟨approvals, ⟨h₁, h₂⟩, rfl⟩

end Connection

/-! ## Methods -/

namespace Store

open Connection

variable {s s' : Store}

/-- The bootstrap sessions after the unseen one is invalidated. -/
def invalidatedBootstraps (s : Store) : Table BootstrapSession String (fun row => row.bootstrapId) :=
  s.bootstraps.updateWhere
    (fun row => s.bootstraps.rows.head?.any (·.bootstrapId = row.bootstrapId) &&
      (row.state = .issued || row.state = .expired))
    assignInvalid bootstrapId_assignInvalid

lemma createAuthBootstrap_ok {session : BootstrapSession} {u : Unit}
    (h : createAuthBootstrap session s = (.ok u, s')) :
    session.postInit = .ok () ∧ session.state = .issued ∧
      ∃ before bootstraps,
        ((s.bootstraps.rows = [] ∧ before = s.bootstraps) ∨
          (s.bootstrapReplaceable = true ∧ before = invalidatedBootstraps s)) ∧
        before.insert? session = some bootstraps ∧ s' = { s with bootstraps := bootstraps } := by
  unfold createAuthBootstrap at h
  simp only [Tx.bind_ok, Tx.ofExcept_ok, Tx.require_ok, Tx.transaction_ok, Tx.reads_ok,
    Tx.ite_ok, Tx.writes_ok, except_bind_ok, insertRow_ok, except_pure_ok] at h
  obtain ⟨_, _, ⟨hinit, rfl⟩, _, _, ⟨hissued, rfl⟩, existing, _, ⟨rfl, rfl⟩, hcases⟩ := h
  refine ⟨hinit, hissued, ?_⟩
  rcases hcases with ⟨-, _, _, ⟨rfl, rfl⟩, _, _, ⟨hreplace, rfl⟩, _, s₁, hs₁, bootstraps, ⟨-, hins⟩,
    rfl⟩ | ⟨hempty, bootstraps, ⟨-, hins⟩, rfl⟩
  · cases hs₁
    exact ⟨invalidatedBootstraps s, bootstraps, .inr ⟨hreplace, rfl⟩, hins, rfl⟩
  · exact ⟨s.bootstraps, bootstraps, .inl ⟨by simpa using hempty, rfl⟩, hins, rfl⟩

lemma issueRegistrationCeremony_ok {tokenDigest : String} {ceremony : PendingCeremony} {u : Unit}
    (h : issueRegistrationCeremony tokenDigest ceremony s = (.ok u, s')) :
    (∃ bootstrap, s.bootstrapByToken tokenDigest = .ok bootstrap ∧
        some bootstrap.bootstrapId = ceremony.bootstrapId ∧ bootstrap.state = .issued) ∧
      insertCeremony ceremony s = (.ok (), s') := by
  unfold issueRegistrationCeremony at h
  simp only [Tx.bind_ok, Tx.ofExcept_ok, Tx.require_ok, Tx.transaction_ok, Tx.reads_ok,
    Tx.readsOrRaise_ok] at h
  obtain ⟨_, _, ⟨-, rfl⟩, _, _, ⟨-, rfl⟩, bootstrap, _, ⟨hbootstrap, rfl⟩, _, _,
    ⟨⟨hid, hissued, -⟩, rfl⟩, _, _, ⟨-, rfl⟩, _, _, ⟨-, rfl⟩, hins⟩ := h
  exact ⟨⟨bootstrap, hbootstrap, hid, hissued⟩, hins⟩

lemma completeRegistration_ok {tokenDigest ceremonyId consumedAt : String}
    {credential result : RegisteredCredential}
    (h : completeRegistration tokenDigest ceremonyId credential consumedAt s = (.ok result, s')) :
    credential.postInit = .ok () ∧
      ∃ ceremony bootstrap s₁ s₂, s.readCeremony ceremonyId = .ok ceremony ∧
        ceremony.purpose = .registration ∧ ceremony.state = .issued ∧
        s.bootstrapByToken tokenDigest = .ok bootstrap ∧
        some bootstrap.bootstrapId = ceremony.bootstrapId ∧ bootstrap.state = .issued ∧
        1 ≤ bootstrap.remainingRegistrations ∧
        insertCredential credential s = (.ok (), s₁) ∧
        s₂ = { s₁ with ceremonies :=
          consumedCeremonies s₁ ceremony.ceremonyId consumedAt credential.fingerprint } ∧
        s' = { s₂ with bootstraps := countedBootstraps s₂ bootstrap } := by
  unfold completeRegistration at h
  simp only [Tx.bind_ok, Tx.ofExcept_ok, Tx.require_ok, Tx.transaction_ok, Tx.readsOrRaise_ok,
    Tx.pure_ok] at h
  obtain ⟨_, _, ⟨hinit, rfl⟩, _, _, ⟨ceremony, _, ⟨hceremony, rfl⟩, _, _, ⟨hissued, rfl⟩, bootstrap, _,
    ⟨hbootstrap, rfl⟩, _, _, ⟨hactive, rfl⟩, _, s₁, hins, _, s₂, hconsume, hcount⟩, rfl, rfl⟩ := h
  refine ⟨hinit, ceremony, bootstrap, s₁, s₂, hceremony, hissued.1, hissued.2.1, hbootstrap,
    hactive.1, hactive.2.1, hactive.2.2.1, hins, ?_, ?_⟩
  · exact consumeCeremony_ok hconsume
  · exact countRegistration_ok hcount

/-- The ceremonies after the stale approval ceremonies expire. -/
def expiredCeremonies (s : Store) (issuedAt : String) :
    Table PendingCeremony String (fun row => row.ceremonyId) :=
  s.ceremonies.updateWhere
    (fun row => row.purpose = .approval && row.state = .issued &&
      decide (row.expiresAt ≤ issuedAt))
    (assignExpired issuedAt) (ceremonyId_assignExpired issuedAt)

lemma issueApprovalCeremony_ok {ceremony : PendingCeremony} {u : Unit}
    (h : issueApprovalCeremony ceremony s = (.ok u, s')) :
    ceremony.postInit = .ok () ∧ ceremony.purpose = .approval ∧ ceremony.state = .issued ∧
      (∃ jobId record, ceremony.jobId = some jobId ∧ s.readRecord jobId = .ok record ∧
        ceremony.jobDigest = some record.jobDigest ∧ record.state = .pending) ∧
      insertCeremony ceremony { s with ceremonies := expiredCeremonies s ceremony.issuedAt } =
        (.ok (), s') := by
  unfold issueApprovalCeremony at h
  simp only [Tx.bind_ok, Tx.ofExcept_ok, Tx.require_ok, Tx.transaction_ok, Tx.reads_ok,
    Tx.readsOrRaise_ok, Tx.writes_ok] at h
  obtain ⟨_, _, ⟨hinit, rfl⟩, _, _, ⟨⟨hpurpose, hissued, hjob, -⟩, rfl⟩, record, _,
    ⟨hrecord, rfl⟩, _, _, ⟨⟨hdigest, hpending, -⟩, rfl⟩, _, _, ⟨-, rfl⟩, _, _, ⟨-, rfl⟩, _, s₁, hs₁,
    hins⟩ := h
  cases hs₁
  obtain ⟨jobId, hjobId⟩ := Option.ne_none_iff_exists'.mp hjob
  rw [hjobId, Option.getD_some] at hrecord
  exact ⟨hinit, hpurpose, hissued, ⟨jobId, record, hjobId, hrecord, hdigest.symm, hpending⟩, hins⟩

/-- The constructors of the values handed to `issue_registration_ceremony` ran. -/
lemma issueRegistrationCeremony_postInit {tokenDigest : String} {ceremony : PendingCeremony}
    {u : Unit} (h : issueRegistrationCeremony tokenDigest ceremony s = (.ok u, s')) :
    ceremony.postInit = .ok () := by
  unfold issueRegistrationCeremony at h
  obtain ⟨_, _, hinit, -⟩ := Tx.bind_ok.mp h
  exact (Tx.ofExcept_ok.mp hinit).1

/-- The constructors of the values handed to `claim_with_approval` ran. -/
lemma claimWithApproval_postInit {ceremony : PendingCeremony} {credential : RegisteredCredential}
    {verified : VerifiedAssertion} {approval : ApprovalRecord} {claimEvent : TransitionEvent}
    {record : JobRecord}
    (h : claimWithApproval ceremony credential verified approval claimEvent s = (.ok record, s')) :
    approval.postInit = .ok () := by
  unfold claimWithApproval at h
  obtain ⟨_, _, -, h⟩ := Tx.bind_ok.mp h
  obtain ⟨_, _, -, h⟩ := Tx.bind_ok.mp h
  obtain ⟨_, _, -, h⟩ := Tx.bind_ok.mp h
  obtain ⟨_, _, hinit, -⟩ := Tx.bind_ok.mp h
  exact (Tx.ofExcept_ok.mp hinit).1

/-- **What `claim_with_approval` does.** -/
lemma claimWithApproval_ok {ceremony : PendingCeremony} {credential : RegisteredCredential}
    {verified : VerifiedAssertion} {approval : ApprovalRecord} {claimEvent : TransitionEvent}
    {record : JobRecord}
    (h : claimWithApproval ceremony credential verified approval claimEvent s = (.ok record, s')) :
    approvalClaimContract ceremony credential verified approval claimEvent ∧
      s.readCeremony ceremony.ceremonyId = .ok ceremony ∧
      approval.verifiedAt < ceremony.expiresAt ∧
      s.readCredential credential.credentialId = .ok credential ∧
      ∃ s₁ s₂ s₃, s₁ = { s with credentials := advancedCredentials s credential verified } ∧
        s₂ = { s₁ with ceremonies :=
          consumedCeremonies s₁ ceremony.ceremonyId approval.verifiedAt credential.fingerprint } ∧
        insertApproval approval s₂ = (.ok (), s₃) ∧
        Connection.compareAndAppend claimEvent s₃ = (.ok record, s') := by
  unfold claimWithApproval at h
  simp only [Tx.bind_ok, Tx.ofExcept_ok, Tx.require_ok, Tx.transaction_ok, Tx.readsOrRaise_ok] at h
  obtain ⟨_, _, ⟨-, rfl⟩, _, _, ⟨-, rfl⟩, _, _, ⟨-, rfl⟩, _, _, ⟨-, rfl⟩, _, _, ⟨hcontract, rfl⟩,
    stored, _, ⟨hceremony, rfl⟩, _, _, ⟨⟨rfl, hexpires⟩, rfl⟩, storedCredential, _,
    ⟨hcredential, rfl⟩, _, _, ⟨rfl, rfl⟩, _, s₁, hadvance, _, s₂, hconsume, _, s₃, hins, happend⟩ := h
  refine ⟨hcontract, hceremony, hexpires, hcredential, s₁, s₂, s₃, ?_, ?_, hins, happend⟩
  · exact advanceSignCount_ok hadvance
  · exact consumeCeremony_ok hconsume

end Store

end AgentRuntimeOps.RootActions
