import AgentRuntimeOps.RootActions.Basic

/-!
# Credentials, bootstrap sessions and ceremonies

The value types of `authorization.py`.  Each constructor of the source checks its arguments in
`__post_init__`; here that is a function `postInit`, because rows of the store are turned into
these values again whenever they are read and the check then runs once more.

The WebAuthn verifier itself is a third-party library; what it answers is left to the environment
of the authorization service.
-/

namespace AgentRuntimeOps.RootActions

open AgentRuntimeOps.Lib

/-- Source: `authorization.py`, `CredentialRole`. -/
inductive CredentialRole where
  | approval
  | recovery
  deriving DecidableEq, Repr

/-- `CredentialRole.value`. -/
def CredentialRole.value : CredentialRole → String
  | approval => "approval"
  | recovery => "recovery"

/-- Source: `authorization.py`, `CeremonyPurpose`. -/
inductive CeremonyPurpose where
  | approval
  | registration
  | recovery
  deriving DecidableEq, Repr

/-- Source: `authorization.py`, `CeremonyState`. -/
inductive CeremonyState where
  | issued
  | consumed
  | expired
  deriving DecidableEq, Repr

/-- Source: `authorization.py`, `BootstrapState`. -/
inductive BootstrapState where
  | issued
  | consumed
  | expired
  deriving DecidableEq, Repr

/-- Source: `authorization.py`, `_LABEL_ROLES`. -/
def labelRole : String → Option CredentialRole
  | "office_windows_hello" => some .approval
  | "remote_phone_passkey" => some .approval
  | "recovery_fido2" => some .recovery
  | _ => none

/-! ## Field checks -/

/-- Source: `authorization.py`, `_timestamp`. -/
def authTimestamp (value field : String) : Except Exn Unit := do
  require (isTimestamp value)
    (Exn.webAuthnAuthorizationError (field ++ " must be an RFC3339 UTC second timestamp"))
  require ((DateTime.strptime value).isSome)
    (Exn.webAuthnAuthorizationError (field ++ " is not a real timestamp"))

/-- Source: `authorization.py`, `_safe_id`. -/
def authSafeId (value field : String) : Except Exn Unit :=
  require (isSafeId value) (Exn.webAuthnAuthorizationError (field ++ " must be a safe identifier"))

/-- Source: `authorization.py`, `_digest`. -/
def authDigest (value field : String) : Except Exn Unit :=
  require (isDigest value) (Exn.webAuthnAuthorizationError (field ++ " must be a sha256 digest"))

/-- Source: `authorization.py`, `_bounded_bytes`. -/
def boundedBytes (value : List UInt8) (field : String) (maximum : Nat) : Except Exn Unit :=
  require (value ≠ [] ∧ value.length ≤ maximum)
    (Exn.webAuthnAuthorizationError (field ++ " byte length is invalid"))

/-- A domain label of `_RP_ID_RE`. -/
def isDomainLabel (label : List Char) : Bool :=
  !label.isEmpty && decide (label.length ≤ 63) &&
    label.all (fun c => isLowerAlnum c || c == '-') &&
    label.head?.any isLowerAlnum && label.getLast?.any isLowerAlnum

/-- `_RP_ID_RE.fullmatch`. -/
def isRpId (s : String) : Bool :=
  decide (1 ≤ s.toList.length ∧ s.toList.length ≤ 253) && (s.toList.splitOn '.').all isDomainLabel

/-! ## Challenges -/

/-- Source: `authorization.py`, `action_challenge_bytes`. -/
def actionChallengeBytes (jobDigest : String) (nonce : List UInt8) (expiresAt : String) :
    Except Exn (List UInt8) := do
  authDigest jobDigest "job_digest"
  require (nonce.length = 32)
    (Exn.webAuthnAuthorizationError "approval nonce must contain 32 bytes")
  authTimestamp expiresAt "expires_at"
  return sha256 (tagged "agent-runtime-root-action-approval/v1"
    (utf8 jobDigest.toList ++ 0 :: nonce ++ 0 :: utf8 expiresAt.toList))

/-- Source: `authorization.py`, `registration_challenge_bytes`. -/
def registrationChallengeBytes (bootstrapId : String) (role : CredentialRole) (label : String)
    (nonce : List UInt8) (expiresAt : String) : Except Exn (List UInt8) := do
  authSafeId bootstrapId "bootstrap_id"
  require (labelRole label = some role)
    (Exn.webAuthnAuthorizationError "registration role or label is invalid")
  require (nonce.length = 32)
    (Exn.webAuthnAuthorizationError "registration nonce must contain 32 bytes")
  authTimestamp expiresAt "expires_at"
  return sha256 (tagged "agent-runtime-root-action-registration/v1"
    (utf8 bootstrapId.toList ++ 0 :: utf8 role.value.toList ++ 0 :: utf8 label.toList ++
      0 :: nonce ++ 0 :: utf8 expiresAt.toList))

/-- Source: `authorization.py`, `bootstrap_token_digest`. -/
def bootstrapTokenDigest (token : List UInt8) : Except Exn String := do
  boundedBytes token "bootstrap_token" 64
  return sha256Digest (tagged "agent-runtime-root-action-bootstrap/v1" token)

/-! ## Values -/

/-- Source: `authorization.py`, `RegisteredCredential`. -/
structure RegisteredCredential where
  credentialId : List UInt8
  publicKey : List UInt8
  signCount : Nat
  role : CredentialRole
  label : String
  aaguid : String
  deviceType : String
  backedUp : Bool
  registeredAt : String
  revokedAt : Option String := none
  deriving DecidableEq

namespace RegisteredCredential

/-- Source: `authorization.py`, `RegisteredCredential.fingerprint`. -/
def fingerprint (credential : RegisteredCredential) : String :=
  sha256Digest (tagged "agent-runtime-root-action-credential/v1" credential.credentialId)

/-- Source: `authorization.py`, `RegisteredCredential.__post_init__`. -/
def postInit (credential : RegisteredCredential) : Except Exn Unit := do
  boundedBytes credential.credentialId "credential_id" 4096
  boundedBytes credential.publicKey "public_key" (16 * 1024)
  require (labelRole credential.label = some credential.role)
    (Exn.webAuthnAuthorizationError "credential label does not match its role")
  authSafeId credential.aaguid "aaguid"
  require (credential.deviceType = "single_device" ∨ credential.deviceType = "multi_device")
    (Exn.webAuthnAuthorizationError "credential device type is invalid")
  authTimestamp credential.registeredAt "registered_at"
  match credential.revokedAt with
  | none => .ok ()
  | some revokedAt => do
    authTimestamp revokedAt "revoked_at"
    require (¬ revokedAt < credential.registeredAt)
      (Exn.webAuthnAuthorizationError "revocation precedes registration")
  require (credential.role = .recovery →
      credential.deviceType = "single_device" ∧ credential.backedUp = false)
    (Exn.webAuthnAuthorizationError "recovery credential must be device-bound and not backed up")

end RegisteredCredential

/-- Source: `authorization.py`, `BootstrapSession`. -/
structure BootstrapSession where
  bootstrapId : String
  tokenDigest : String
  issuedAt : String
  expiresAt : String
  remainingRegistrations : Nat
  state : BootstrapState := .issued
  deriving DecidableEq, Repr

/-- Source: `authorization.py`, `BootstrapSession.__post_init__`. -/
def BootstrapSession.postInit (session : BootstrapSession) : Except Exn Unit := do
  authSafeId session.bootstrapId "bootstrap_id"
  authDigest session.tokenDigest "token_digest"
  authTimestamp session.issuedAt "issued_at"
  authTimestamp session.expiresAt "expires_at"
  require (session.issuedAt < session.expiresAt)
    (Exn.webAuthnAuthorizationError "bootstrap must expire after issue")
  require (session.remainingRegistrations ≤ 3)
    (Exn.webAuthnAuthorizationError "bootstrap remaining registration count is invalid")
  require (session.state = .issued → 1 ≤ session.remainingRegistrations)
    (Exn.webAuthnAuthorizationError "issued bootstrap must have a remaining registration")
  require (session.state = .consumed → session.remainingRegistrations = 0)
    (Exn.webAuthnAuthorizationError "consumed bootstrap cannot have remaining registrations")

/-- Source: `authorization.py`, `PendingCeremony`. -/
structure PendingCeremony where
  ceremonyId : String
  purpose : CeremonyPurpose
  challenge : List UInt8
  bindingNonce : List UInt8
  challengeDigest : String
  issuedAt : String
  expiresAt : String
  jobId : Option String := none
  jobDigest : Option String := none
  bootstrapId : Option String := none
  role : Option CredentialRole := none
  label : Option String := none
  state : CeremonyState := .issued
  consumedAt : Option String := none
  credentialFingerprint : Option String := none
  deriving DecidableEq

namespace PendingCeremony

/-- The part of `__post_init__` about the state of the ceremony. -/
def checkState (ceremony : PendingCeremony) : Except Exn Unit :=
  if ceremony.state = .issued then
    require (ceremony.consumedAt = none ∧ ceremony.credentialFingerprint = none)
      (Exn.webAuthnAuthorizationError "issued ceremony has consumption metadata")
  else do
    authTimestamp (ceremony.consumedAt.getD "") "consumed_at"
    require (¬ ceremony.consumedAt.getD "" < ceremony.issuedAt)
      (Exn.webAuthnAuthorizationError "ceremony consumption precedes issue")
    match ceremony.credentialFingerprint with
    | none => .ok ()
    | some fingerprint => authDigest fingerprint "credential_fingerprint"

/-- The part of `__post_init__` about the purpose of the ceremony. -/
def checkPurpose (ceremony : PendingCeremony) : Except Exn Unit :=
  match ceremony.purpose with
  | .approval => do
    authSafeId (ceremony.jobId.getD "") "job_id"
    authDigest (ceremony.jobDigest.getD "") "job_digest"
    require (ceremony.bootstrapId = none ∧ ceremony.role = none ∧ ceremony.label = none)
      (Exn.webAuthnAuthorizationError "approval ceremony has registration fields")
    let challenge ← actionChallengeBytes (ceremony.jobDigest.getD "") ceremony.bindingNonce
      ceremony.expiresAt
    require (ceremony.challenge = challenge)
      (Exn.webAuthnAuthorizationError "approval challenge binding mismatch")
  | .registration => do
    authSafeId (ceremony.bootstrapId.getD "") "bootstrap_id"
    let role ← orRaise ceremony.role
      (Exn.webAuthnAuthorizationError "registration role or label is invalid")
    require (labelRole (ceremony.label.getD "") = some role)
      (Exn.webAuthnAuthorizationError "registration role or label is invalid")
    require (ceremony.jobId = none ∧ ceremony.jobDigest = none)
      (Exn.webAuthnAuthorizationError "registration ceremony has job fields")
    let challenge ← registrationChallengeBytes (ceremony.bootstrapId.getD "") role
      (ceremony.label.getD "") ceremony.bindingNonce ceremony.expiresAt
    require (ceremony.challenge = challenge)
      (Exn.webAuthnAuthorizationError "registration challenge binding mismatch")
  | .recovery => .error (Exn.webAuthnAuthorizationError
      "recovery ceremony remains fail-closed until its replacement scope is implemented")

/-- Source: `authorization.py`, `PendingCeremony.__post_init__`. -/
def postInit (ceremony : PendingCeremony) : Except Exn Unit := do
  authSafeId ceremony.ceremonyId "ceremony_id"
  boundedBytes ceremony.challenge "challenge" 64
  require (ceremony.bindingNonce.length = 32)
    (Exn.webAuthnAuthorizationError "ceremony binding nonce must contain 32 bytes")
  authDigest ceremony.challengeDigest "challenge_digest"
  require (ceremony.challengeDigest = sha256Digest ceremony.challenge)
    (Exn.webAuthnAuthorizationError "challenge digest mismatch")
  authTimestamp ceremony.issuedAt "issued_at"
  authTimestamp ceremony.expiresAt "expires_at"
  require (ceremony.issuedAt < ceremony.expiresAt)
    (Exn.webAuthnAuthorizationError "ceremony must expire after issue")
  ceremony.checkState
  ceremony.checkPurpose

end PendingCeremony

/-- Source: `authorization.py`, `VerifiedAssertion`. -/
structure VerifiedAssertion where
  credentialId : List UInt8
  newSignCount : Nat
  userVerified : Bool
  deviceType : String
  backedUp : Bool
  origin : String
  rpId : String
  deriving DecidableEq

/-- Source: `authorization.py`, `VerifiedAssertion.__post_init__`. -/
def VerifiedAssertion.postInit (verified : VerifiedAssertion) : Except Exn Unit := do
  boundedBytes verified.credentialId "credential_id" 4096
  require (verified.userVerified = true)
    (Exn.webAuthnAuthorizationError "assertion did not verify the user")
  require (verified.deviceType = "single_device" ∨ verified.deviceType = "multi_device")
    (Exn.webAuthnAuthorizationError "assertion device type is invalid")
  require (verified.origin.toList.length ≤ 512)
    (Exn.webAuthnAuthorizationError "assertion origin is invalid")
  require (isRpId verified.rpId) (Exn.webAuthnAuthorizationError "assertion RP ID is invalid")

/-- Source: `authorization.py`, `ApprovalRecord`. -/
structure ApprovalRecord where
  approvalId : String
  ceremonyId : String
  jobId : String
  jobDigest : String
  credentialFingerprint : String
  verifiedAt : String
  origin : String
  rpId : String
  userVerified : Bool
  signCount : Nat
  deriving DecidableEq

/-- Source: `authorization.py`, `ApprovalRecord.__post_init__`. -/
def ApprovalRecord.postInit (approval : ApprovalRecord) : Except Exn Unit := do
  authSafeId approval.approvalId "approval_id"
  authSafeId approval.ceremonyId "ceremony_id"
  authSafeId approval.jobId "job_id"
  authDigest approval.jobDigest "job_digest"
  authDigest approval.credentialFingerprint "credential_fingerprint"
  authTimestamp approval.verifiedAt "verified_at"
  require (approval.origin.toList.length ≤ 512)
    (Exn.webAuthnAuthorizationError "approval origin is invalid")
  require (isRpId approval.rpId) (Exn.webAuthnAuthorizationError "approval RP ID is invalid")
  require (approval.userVerified = true)
    (Exn.webAuthnAuthorizationError "approval must record user verification")

end AgentRuntimeOps.RootActions
