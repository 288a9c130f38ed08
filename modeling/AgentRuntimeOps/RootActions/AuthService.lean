import AgentRuntimeOps.RootActions.Worker

/-!
# The authorization service

`auth_service.py`: bootstrap sessions, registration and approval ceremonies.  An approval that
verifies is written together with the claim of its job, which is then dispatched.
-/

namespace AgentRuntimeOps.RootActions

open AgentRuntimeOps.Lib

/-- `secrets.token_hex` of the given bytes. -/
def tokenHex (bytes : List UInt8) : String :=
  String.ofList (bytes.flatMap fun byte => [hexDigit (byte.toNat / 16), hexDigit (byte.toNat % 16)])

/-- `prefix + secrets.token_hex(16)`. -/
def newId (kind : String) : Prog String := do
  let bytes ← Program.perform (Op.tokenBytes 16)
  return kind ++ tokenHex bytes

/-- Source: `authorization.py`, `BOOTSTRAP_SECONDS`. -/
def bootstrapSeconds : Nat := 600

/-- Source: `authorization.py`, `REGISTRATION_CHALLENGE_SECONDS`. -/
def registrationChallengeSeconds : Nat := 300

/-- Source: `authorization.py`, `APPROVAL_CHALLENGE_SECONDS`. -/
def approvalChallengeSeconds : Nat := 120

/-- Source: `auth_service.py`, `create_initial_bootstrap`. -/
def createInitialBootstrap : Prog BootstrapSession := do
  let event ← Prog.nextEvent
  let token ← Program.perform (Op.tokenBytes 32)
  let bootstrapId ← newId "bootstrap-"
  let tokenDigest ← Program.ofExcept (bootstrapTokenDigest token)
  let expiresAt ← Program.ofExcept (secondsAfter event.2 bootstrapSeconds)
  let session : BootstrapSession := ⟨bootstrapId, tokenDigest, event.2, expiresAt, 3, .issued⟩
  Program.ofExcept session.postInit
  discard (Prog.write (.createAuthBootstrap session))
  return session

/-- Source: `auth_service.py`, `status`: the credentials it summarizes. -/
def authStatus : Prog (List RegisteredCredential) := do
  let approval : List RegisteredCredential ← Prog.read (.activeCredentials .approval)
  let recovery : List RegisteredCredential ← Prog.read (.activeCredentials .recovery)
  return approval ++ recovery

/-- Source: `auth_service.py`, `begin_registration`; `token` is the decoded bootstrap token, or what
decoding it raises. -/
def beginRegistration (token : Except Exn (List UInt8)) (role : CredentialRole) (label : String) :
    Prog PendingCeremony := do
  let token ← Program.ofExcept token
  let tokenDigest ← Program.ofExcept (bootstrapTokenDigest token)
  let event ← Prog.nextEvent
  let expiresAt ← Program.ofExcept (secondsAfter event.2 registrationChallengeSeconds)
  let nonce ← Program.perform (Op.tokenBytes 32)
  let bootstrap : BootstrapSession ← Prog.read (.readAuthBootstrapByToken tokenDigest)
  let challenge ← Program.ofExcept
    (registrationChallengeBytes bootstrap.bootstrapId role label nonce expiresAt)
  let ceremonyId ← newId "ceremony-"
  let ceremony : PendingCeremony := {
    ceremonyId := ceremonyId
    purpose := .registration
    challenge := challenge
    bindingNonce := nonce
    challengeDigest := sha256Digest challenge
    issuedAt := event.2
    expiresAt := expiresAt
    bootstrapId := some bootstrap.bootstrapId
    role := some role
    label := some label }
  Program.ofExcept ceremony.postInit
  discard (Prog.write (.issueRegistrationCeremony tokenDigest ceremony))
  let credentials ← authStatus
  discard (Program.perform (Op.verify (.registrationOptions ceremony credentials)))
  return ceremony

/-- Source: `auth_service.py`, `finish_registration`. -/
def finishRegistration (token : Except Exn (List UInt8)) (ceremonyId : String)
    (message : BrowserCredential) : Prog Nat := do
  let token ← Program.ofExcept token
  let tokenDigest ← Program.ofExcept (bootstrapTokenDigest token)
  let ceremony : PendingCeremony ← Prog.read (.readCeremony ceremonyId)
  let event ← Prog.nextEvent
  let credential : RegisteredCredential ←
    Program.perform (Op.verify (.verifyRegistration ceremony message event.2))
  discard (Prog.write (.completeRegistration tokenDigest ceremonyId credential event.2))
  let bootstrap : BootstrapSession ← Prog.read (.readAuthBootstrap (ceremony.bootstrapId.getD ""))
  return bootstrap.remainingRegistrations

variable [UnicodeData]

/-- Source: `auth_service.py`, `begin_approval`. -/
def beginApproval (jobId jobDigest : String) : Prog PendingCeremony := do
  let job : SealedJob ← Prog.read (.readSealed jobId)
  Prog.require (job.jobDigest = jobDigest) (Exn.valueError "approval request job digest mismatch")
  let event ← Prog.nextEvent
  let expiresAt ← Program.ofExcept (secondsAfter event.2 approvalChallengeSeconds)
  let nonce ← Program.perform (Op.tokenBytes 32)
  let challenge ← Program.ofExcept (actionChallengeBytes jobDigest nonce expiresAt)
  let ceremonyId ← newId "ceremony-"
  let ceremony : PendingCeremony := {
    ceremonyId := ceremonyId
    purpose := .approval
    challenge := challenge
    bindingNonce := nonce
    challengeDigest := sha256Digest challenge
    issuedAt := event.2
    expiresAt := expiresAt
    jobId := some jobId
    jobDigest := some jobDigest }
  Program.ofExcept ceremony.postInit
  discard (Prog.write (.issueApprovalCeremony ceremony))
  let credentials : List RegisteredCredential ← Prog.read (.activeCredentials .approval)
  discard (Program.perform (Op.verify (.authenticationOptions ceremony credentials)))
  return ceremony

/-- The claim that an approval is written with. -/
def approvalClaim (approval : ApprovalRecord) (event : String × String) : TransitionEvent where
  eventId := event.1
  jobId := approval.jobId
  jobDigest := approval.jobDigest
  expectedRevision := 0
  kind := .claimExecution
  occurredAt := event.2
  outcome := none
  reasonCode := none

/-- Source: `auth_service.py`, `finish_approval`; the dispatch is the worker's `enqueue`. -/
def BrokerConfig.finishApproval (cfg : BrokerConfig) (ceremonyId : String)
    (message : BrowserCredential) : Prog JobRecord := do
  let ceremony : PendingCeremony ← Prog.read (.readCeremony ceremonyId)
  let credentialId : List UInt8 ← Program.perform (Op.verify (.credentialId message))
  let credential : RegisteredCredential ← Prog.read (.readCredential credentialId)
  Prog.require (credential.role = .approval)
    (Exn.valueError "recovery credential cannot approve an action")
  let verified : VerifiedAssertion ←
    Program.perform (Op.verify (.verifyAssertion ceremony message credential))
  let event ← Prog.nextEvent
  let approvalId ← newId "approval-"
  let approval : ApprovalRecord := {
    approvalId := approvalId
    ceremonyId := ceremony.ceremonyId
    jobId := ceremony.jobId.getD ""
    jobDigest := ceremony.jobDigest.getD ""
    credentialFingerprint := credential.fingerprint
    verifiedAt := event.2
    origin := verified.origin
    rpId := verified.rpId
    userVerified := verified.userVerified
    signCount := verified.newSignCount }
  Program.ofExcept approval.postInit
  let record : JobRecord ← Prog.write
    (.claimWithApproval ceremony credential verified approval (approvalClaim approval event))
  cfg.enqueue record.jobId record.jobDigest
  return record

end AgentRuntimeOps.RootActions
