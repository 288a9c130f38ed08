import AgentRuntimeOps.RootActions.PosixStore

/-!
# The store: bootstrap sessions, credentials, ceremonies and approvals

The authorization methods of `posix_store.py`.  A value handed to a method has passed its
constructor (`postInit` runs first); a row is turned into a value again when it is read.
-/

namespace AgentRuntimeOps.RootActions

open AgentRuntimeOps.Lib

/-! ## Reading -/

namespace Store

/-- Source: `posix_store.py`, `read_auth_bootstrap`. -/
def readAuthBootstrap (bootstrapId : String) (s : Store) : Except Exn BootstrapSession := do
  let session ← orRaise (s.bootstraps.find? bootstrapId) (Exn.storageNotFound bootstrapId)
  session.postInit
  return session

/-- Source: `posix_store.py`, `read_auth_bootstrap_by_token` and `_bootstrap_by_token`. -/
def bootstrapByToken (tokenDigest : String) (s : Store) : Except Exn BootstrapSession := do
  let session ← orRaise (s.bootstraps.rows.find? (·.tokenDigest = tokenDigest))
    (Exn.storageNotFound "bootstrap")
  session.postInit
  return session

/-- Source: `posix_store.py`, `_credential_from_row`. -/
def credentialFromRow (row : CredentialRow) : Except Exn RegisteredCredential := do
  row.credential.postInit
  require (row.credential.fingerprint = row.credentialFingerprint)
    (Exn.storageConflict "credential fingerprint metadata mismatch")
  return row.credential

/-- Source: `posix_store.py`, `read_credential` and `_read_credential`. -/
def readCredential (credentialId : List UInt8) (s : Store) : Except Exn RegisteredCredential := do
  let row ← orRaise (s.credentials.find? credentialId) (Exn.storageNotFound "credential")
  credentialFromRow row

/-- Source: `posix_store.py`, `active_credentials`. -/
def activeCredentials (role : CredentialRole) (s : Store) :
    Except Exn (List RegisteredCredential) :=
  let rows := s.credentials.rows.filter fun row =>
    row.credential.role = role && row.credential.revokedAt.isNone
  let ordered := rows.mergeSort fun a b =>
    decide (a.credential.registeredAt < b.credential.registeredAt ∨
      (a.credential.registeredAt = b.credential.registeredAt ∧
        a.credentialFingerprint ≤ b.credentialFingerprint))
  ordered.mapM credentialFromRow

/-- Source: `posix_store.py`, `read_ceremony` and `_read_ceremony`. -/
def readCeremony (ceremonyId : String) (s : Store) : Except Exn PendingCeremony := do
  let ceremony ← orRaise (s.ceremonies.find? ceremonyId) (Exn.storageNotFound ceremonyId)
  ceremony.postInit
  return ceremony

end Store

/-! ## Writing on a connection -/

namespace Connection

/-- Source: `posix_store.py`, `_insert_credential`: the fingerprint is unique, and so is the label
among the credentials that are not revoked. -/
def insertCredential (credential : RegisteredCredential) : StoreTx Unit :=
  Tx.writes fun s => do
    let credentials ← insertRow s.credentials
      (fun row => row.credentialFingerprint = credential.fingerprint ||
        (credential.revokedAt.isNone && row.credential.revokedAt.isNone &&
          row.credential.label = credential.label))
      ⟨credential, credential.fingerprint⟩ "credential or active label already exists"
    return { s with credentials }

/-- Source: `posix_store.py`, `_insert_ceremony`. -/
def insertCeremony (ceremony : PendingCeremony) : StoreTx Unit :=
  Tx.writes fun s => do
    let ceremonies ← insertRow s.ceremonies
      (fun row => row.challengeDigest = ceremony.challengeDigest) ceremony
      "ceremony identity already exists"
    return { s with ceremonies }

/-- The `SET` clause that consumes a ceremony. -/
def assignConsumed (consumedAt fingerprint : String) (row : PendingCeremony) : PendingCeremony :=
  { row with
    state := .consumed
    consumedAt := some consumedAt
    credentialFingerprint := some fingerprint }

lemma ceremonyId_assignConsumed (consumedAt fingerprint : String) (row : PendingCeremony) :
    (assignConsumed consumedAt fingerprint row).ceremonyId = row.ceremonyId := rfl

/-- The `SET` clause that expires a ceremony. -/
def assignExpired (consumedAt : String) (row : PendingCeremony) : PendingCeremony :=
  { row with state := .expired, consumedAt := some consumedAt }

lemma ceremonyId_assignExpired (consumedAt : String) (row : PendingCeremony) :
    (assignExpired consumedAt row).ceremonyId = row.ceremonyId := rfl

/-- The `SET` clause that counts a registration down. -/
def assignRemaining (remaining : Nat) (row : BootstrapSession) : BootstrapSession :=
  { row with
    remainingRegistrations := remaining
    state := if remaining = 0 then .consumed else .issued }

lemma bootstrapId_assignRemaining (remaining : Nat) (row : BootstrapSession) :
    (assignRemaining remaining row).bootstrapId = row.bootstrapId := rfl

/-- The `SET` clause that invalidates an unseen bootstrap token. -/
def assignInvalid (row : BootstrapSession) : BootstrapSession := { row with state := .expired }

lemma bootstrapId_assignInvalid (row : BootstrapSession) :
    (assignInvalid row).bootstrapId = row.bootstrapId := rfl

/-- The `SET` clause that moves the signature counter of a credential. -/
def assignSignCount (verified : VerifiedAssertion) (row : CredentialRow) : CredentialRow :=
  { row with credential := { row.credential with
      signCount := verified.newSignCount
      backedUp := verified.backedUp } }

lemma credentialId_assignSignCount (verified : VerifiedAssertion) (row : CredentialRow) :
    (assignSignCount verified row).credential.credentialId = row.credential.credentialId := rfl

/-- The statement that consumes an issued ceremony. -/
def consumeCeremony (ceremonyId consumedAt fingerprint message : String) : StoreTx Unit :=
  Tx.writes fun s => do
    let ceremonies ← updateOne s.ceremonies
      (fun row => row.ceremonyId = ceremonyId && row.state = .issued)
      (assignConsumed consumedAt fingerprint) (ceremonyId_assignConsumed consumedAt fingerprint)
      message
    return { s with ceremonies }

/-- The statement of `complete_registration` that counts a registration down. -/
def countRegistration (bootstrap : BootstrapSession) : StoreTx Unit :=
  Tx.writes fun s => do
    let remaining := bootstrap.remainingRegistrations - 1
    let bootstraps ← updateOne s.bootstraps
      (fun row => row.bootstrapId = bootstrap.bootstrapId && row.state = .issued &&
        row.remainingRegistrations = bootstrap.remainingRegistrations)
      (assignRemaining remaining) (bootstrapId_assignRemaining remaining)
      "bootstrap registration counter race"
    return { s with bootstraps }

/-- The statement of `claim_with_approval` that moves the signature counter. -/
def advanceSignCount (credential : RegisteredCredential) (verified : VerifiedAssertion) :
    StoreTx Unit :=
  Tx.writes fun s => do
    let credentials ← updateOne s.credentials
      (fun row => row.credential.credentialId = credential.credentialId &&
        row.credential.signCount = credential.signCount && row.credential.revokedAt.isNone)
      (assignSignCount verified) (credentialId_assignSignCount verified)
      "credential counter compare-and-swap failed"
    return { s with credentials }

/-- The insertion of an approval. -/
def insertApproval (approval : ApprovalRecord) : StoreTx Unit :=
  Tx.writes fun s => do
    let approvals ← insertRow s.approvals (fun row => row.ceremonyId = approval.ceremonyId)
      { approval with userVerified := true } "approval identity already exists"
    return { s with approvals }

end Connection

/-! ## Transactions -/

namespace Store

open Connection

/-- The initial bootstrap may be replaced: it is the only one, was never used and is not
consumed. -/
def bootstrapReplaceable (s : Store) : Bool :=
  s.bootstraps.rows.length = 1 && s.credentials.rows.isEmpty && s.ceremonies.rows.isEmpty &&
    s.bootstraps.rows.all (·.state != .consumed)

/-- Source: `posix_store.py`, `create_auth_bootstrap`. -/
def createAuthBootstrap (session : BootstrapSession) : StoreTx Unit := do
  Tx.ofExcept session.postInit
  Tx.require (session.state = .issued)
    (Exn.storageConflict "new bootstrap session must be issued")
  Tx.transaction do
    let existing ← Tx.reads fun s => s.bootstraps.rows
    if existing ≠ [] then
      let replaceable ← Tx.reads bootstrapReplaceable
      Tx.require (replaceable = true)
        (Exn.storageConflict "initial bootstrap has already been created")
      -- The one row there is has the id of `existing[0]` and is issued or expired.
      Tx.writes fun s => .ok { s with
        bootstraps := s.bootstraps.updateWhere
          (fun row => existing.head?.any (·.bootstrapId = row.bootstrapId) &&
            (row.state = .issued || row.state = .expired))
          assignInvalid bootstrapId_assignInvalid }
    Tx.writes fun s => do
      let bootstraps ← insertRow s.bootstraps (fun row => row.tokenDigest = session.tokenDigest)
        session "bootstrap identity already exists"
      return { s with bootstraps }

/-- Source: `posix_store.py`, `issue_registration_ceremony`. -/
def issueRegistrationCeremony (tokenDigest : String) (ceremony : PendingCeremony) :
    StoreTx Unit := do
  Tx.ofExcept ceremony.postInit
  Tx.require (ceremony.purpose = .registration ∧ ceremony.state = .issued)
    (Exn.storageConflict "registration ceremony is invalid")
  Tx.transaction do
    let bootstrap ← Tx.readsOrRaise (bootstrapByToken tokenDigest)
    Tx.require (some bootstrap.bootstrapId = ceremony.bootstrapId ∧ bootstrap.state = .issued ∧
        1 ≤ bootstrap.remainingRegistrations ∧ ceremony.issuedAt < bootstrap.expiresAt ∧
        ceremony.expiresAt ≤ bootstrap.expiresAt)
      (Exn.storageConflict "bootstrap does not authorize this registration")
    let outstanding ← Tx.reads fun s => s.ceremonies.rows.any fun row =>
      row.bootstrapId = some bootstrap.bootstrapId && row.state = .issued &&
        decide (ceremony.issuedAt ≤ row.expiresAt)
    Tx.require (outstanding = false)
      (Exn.storageConflict "bootstrap already has an issued ceremony")
    insertCeremony ceremony

/-- Source: `posix_store.py`, `complete_registration`. -/
def completeRegistration (tokenDigest ceremonyId : String) (credential : RegisteredCredential)
    (consumedAt : String) : StoreTx RegisteredCredential := do
  Tx.ofExcept credential.postInit
  Tx.transaction do
    let ceremony ← Tx.readsOrRaise (readCeremony ceremonyId)
    Tx.require (ceremony.purpose = .registration ∧ ceremony.state = .issued ∧
        consumedAt < ceremony.expiresAt ∧ ceremony.bootstrapId ≠ none ∧
        ceremony.role = some credential.role ∧ ceremony.label = some credential.label)
      (Exn.storageConflict "registration ceremony cannot be consumed")
    let bootstrap ← Tx.readsOrRaise (bootstrapByToken tokenDigest)
    Tx.require (some bootstrap.bootstrapId = ceremony.bootstrapId ∧ bootstrap.state = .issued ∧
        1 ≤ bootstrap.remainingRegistrations ∧ consumedAt < bootstrap.expiresAt)
      (Exn.storageConflict "bootstrap is not active for registration")
    insertCredential credential
    consumeCeremony ceremony.ceremonyId consumedAt credential.fingerprint
      "registration ceremony consumption race"
    countRegistration bootstrap
  return credential

/-- Source: `posix_store.py`, `issue_approval_ceremony`. -/
def issueApprovalCeremony (ceremony : PendingCeremony) : StoreTx Unit := do
  Tx.ofExcept ceremony.postInit
  Tx.require (ceremony.purpose = .approval ∧ ceremony.state = .issued ∧ ceremony.jobId ≠ none ∧
      ceremony.jobDigest ≠ none)
    (Exn.storageConflict "approval ceremony is invalid")
  Tx.transaction do
    let record ← Tx.readsOrRaise (readRecord (ceremony.jobId.getD ""))
    Tx.require (some record.jobDigest = ceremony.jobDigest ∧ record.state = .pending ∧
        record.executionCount = 0)
      (Exn.storageConflict "only the exact pending job can request approval")
    let enrolled ← Tx.reads fun s => s.credentials.rows.any fun row =>
      row.credential.role = .approval && row.credential.revokedAt.isNone
    Tx.require (enrolled = true)
      (Exn.storageConflict "no active approval credential is enrolled")
    Tx.writes fun s => .ok { s with
      ceremonies := s.ceremonies.updateWhere
        (fun row => row.purpose = .approval && row.state = .issued &&
          decide (row.expiresAt ≤ ceremony.issuedAt))
        (assignExpired ceremony.issuedAt) (ceremonyId_assignExpired ceremony.issuedAt) }
    insertCeremony ceremony

/-- The contract that `claim_with_approval` checks before it opens its transaction. -/
def approvalClaimContract (ceremony : PendingCeremony) (credential : RegisteredCredential)
    (verified : VerifiedAssertion) (approval : ApprovalRecord) (claimEvent : TransitionEvent) :
    Prop :=
  ceremony.purpose = .approval ∧ ceremony.state = .issued ∧ credential.role = .approval ∧
    credential.revokedAt = none ∧ verified.credentialId = credential.credentialId ∧
    verified.userVerified = true ∧ verified.deviceType = credential.deviceType ∧
    approval.origin = verified.origin ∧ approval.rpId = verified.rpId ∧
    approval.ceremonyId = ceremony.ceremonyId ∧ some approval.jobId = ceremony.jobId ∧
    some approval.jobDigest = ceremony.jobDigest ∧
    approval.credentialFingerprint = credential.fingerprint ∧
    approval.signCount = verified.newSignCount ∧ approval.userVerified = true ∧
    claimEvent.kind = .claimExecution ∧ some claimEvent.jobId = ceremony.jobId ∧
    some claimEvent.jobDigest = ceremony.jobDigest

instance (ceremony : PendingCeremony) (credential : RegisteredCredential)
    (verified : VerifiedAssertion) (approval : ApprovalRecord) (claimEvent : TransitionEvent) :
    Decidable (approvalClaimContract ceremony credential verified approval claimEvent) := by
  unfold approvalClaimContract
  infer_instance

lemma approvalClaimContract.userVerified {ceremony : PendingCeremony}
    {credential : RegisteredCredential} {verified : VerifiedAssertion} {approval : ApprovalRecord}
    {claimEvent : TransitionEvent}
    (h : approvalClaimContract ceremony credential verified approval claimEvent) :
    approval.userVerified = true := by
  obtain ⟨-, -, -, -, -, -, -, -, -, -, -, -, -, -, huser, -⟩ := h
  exact huser

lemma approvalClaimContract.kind {ceremony : PendingCeremony}
    {credential : RegisteredCredential} {verified : VerifiedAssertion} {approval : ApprovalRecord}
    {claimEvent : TransitionEvent}
    (h : approvalClaimContract ceremony credential verified approval claimEvent) :
    claimEvent.kind = .claimExecution := by
  obtain ⟨-, -, -, -, -, -, -, -, -, -, -, -, -, -, -, hkind, -⟩ := h
  exact hkind

/-- Source: `posix_store.py`, `claim_with_approval`. -/
def claimWithApproval (ceremony : PendingCeremony) (credential : RegisteredCredential)
    (verified : VerifiedAssertion) (approval : ApprovalRecord) (claimEvent : TransitionEvent) :
    StoreTx JobRecord := do
  Tx.ofExcept ceremony.postInit
  Tx.ofExcept credential.postInit
  Tx.ofExcept verified.postInit
  Tx.ofExcept approval.postInit
  Tx.require (approvalClaimContract ceremony credential verified approval claimEvent)
    (Exn.storageConflict "approval claim contract is invalid")
  Tx.transaction do
    let storedCeremony ← Tx.readsOrRaise (readCeremony ceremony.ceremonyId)
    Tx.require (storedCeremony = ceremony ∧ approval.verifiedAt < ceremony.expiresAt)
      (Exn.storageConflict "approval ceremony is stale, consumed, or expired")
    let storedCredential ← Tx.readsOrRaise (readCredential credential.credentialId)
    Tx.require (storedCredential = credential)
      (Exn.storageConflict "approval credential changed during verification")
    advanceSignCount credential verified
    consumeCeremony ceremony.ceremonyId approval.verifiedAt credential.fingerprint
      "approval ceremony consumption race"
    insertApproval approval
    Connection.compareAndAppend claimEvent

end Store

end AgentRuntimeOps.RootActions
