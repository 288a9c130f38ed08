import AgentRuntimeOps.Runtime.Backup
import AgentRuntimeOps.Runtime.Canary

/-!
# Applying a desired state, and rolling back

`runtime_apply.py` and the commands that use it: `apply_desired_slot` deploys a rendered compose
file under a rollback transaction and, for image rollouts, a canary transaction; every failure
after the compose file was replaced restores the backup.  `cmd_rollback` is the operator's way
back, plain or bound to an expected marker.

Printed lines are not modelled; a report keeps the return code and the printed
`rollback_status`.  Return codes of docker are `1` here: the callers only tell them from `0`.
-/

namespace AgentRuntimeOps.Runtime

open AgentRuntimeOps.Lib

variable [Host]

/-- The desired state of a slot: the images, and the texts that are rendered from them.  The
manifests also say when they were written. -/
structure Desired where
  slot : List Char
  family : List Char
  productImage : Option (List Char)
  wrapperImage : Option (List Char)
  composeText : List UInt8
  manifestText : Int → List UInt8
  stateManifestText : Int → List UInt8

/-- The digests of the candidate's images. -/
def Desired.candidate? (desired : Desired) : Option ImagePair :=
  ImagePair.ofImages? desired.productImage desired.wrapperImage

/-- The `pre_apply_admission` callables: none, or the one of a promotion. -/
inductive Admission where
  | none
  | promotion
  deriving DecidableEq, Repr

/-- The arguments of `apply_desired_slot`. -/
structure ApplyRequest where
  desired : Desired
  allowFirstApply : Bool
  actionName : List Char
  preparesEnv : Bool
  preApplyAdmission : Admission

/-- `action_name.startswith("rollout_image_")`. -/
def isImageRollout (actionName : List Char) : Bool := "rollout_image_".toList.isPrefixOf actionName

/-- What an apply reports: its return code and, if it restored the backup, whether the rollback was
verified. -/
structure ApplyReport where
  code : Nat
  rollback : Option Bool
  deriving DecidableEq, Repr

/-- Run a step and keep its exception. -/
def attempt {α : Type} (step : Run α) : Run (Except Raised α) :=
  tryCatch (do let a ← step; return .ok a) fun e => return .error e

/-- A step whose exceptions are ignored. -/
def quietly (step : Run Unit) : Run Unit := tryCatch step fun _ => return ()

/-- `append_action_log`. -/
def appendActionLog : Run Unit := Check.appendActionLog.run

/-! ## Rolling back a failed apply -/

/-- `_finish_canary_rollback`. -/
def finishCanaryRollback (slot : List Char) (name : BackupName) : Run Unit := do
  let loaded ← tryCatch (do let tx ← Canary.load slot; return some tx)
    fun e => if e = .canaryAbsent then return none else throw e
  match loaded with
  | none => return ()
  | some tx =>
    let previous ← (Op.readContract name).run
    match ImagePair.ofImages? previous.productImage previous.wrapperImage with
    | none => throw .prestateUnavailable
    | some pair =>
      if tx.prestate ≠ pair then
        throw .prestateMismatch
      Canary.finish slot .rollbackSucceeded pair

/-- The verification of a restored baseline: live checks, then both transactions are finished. -/
def verifyRestored (slot : List Char) (name : BackupName) : Run Bool := do
  let _ ← (Op.readContract name).run
  let passed : Bool ← Op.liveChecks.run
  if !passed then
    return false
  finishRollbackTransaction name
  finishCanaryRollback slot name
  return true

/-- `_restore_and_verify_backup`. -/
def restoreAndVerifyBackup (slot : List Char) (name : BackupName) : Run Bool := do
  let (restored, reason) ← restoreBackup name none
  if !restored then
    return false
  if reason = .rollbackEmptyBaselineRestored then
    tryCatch
      (do
        finishRollbackTransaction name
        finishCanaryRollback slot name
        return true)
      fun _ => return false
  else
    tryCatch (verifyRestored slot name) fun _ => return false

/-! ## Applying -/

/-- The checks before anything durable is done; the answer says whether the slot has a manifest. -/
def preflight (request : ApplyRequest) : Run Bool := do
  Check.renderCompose.run
  Check.staticChecks.run
  Check.runtimeSocketSource.run
  Check.runtimeDir.run
  let manifest ← (Op.readFile .manifest).run
  let stateManifest ← (Op.readFile .stateManifest).run
  let hasManifest := manifest.isSome || stateManifest.isSome
  if !hasManifest && !request.allowFirstApply then
    throw .firstApply
  Check.nasWorkspaceDir.run
  Check.workspaceGuidance.run
  Check.configPreflight.run
  return hasManifest

/-- Open the canary transaction of an image rollout. -/
def beginCanary (desired : Desired) (name : BackupName) : Run Unit := do
  let previous ← (Op.readContract name).run
  let pending ← pendingRollbackIdentity
  match desired.candidate?, ImagePair.ofImages? previous.productImage previous.wrapperImage,
      pending with
  | some candidate, some prestate, some identity =>
      Canary.begin desired.slot desired.family candidate prestate identity.backupName
        identity.backupMetadataDigest
  | _, _, _ => throw .canaryIncomplete

/-- Open the rollback transaction, and the canary transaction of an image rollout over a deployed
slot. -/
def openTransactions (request : ApplyRequest) (hasManifest : Bool) (name : BackupName) :
    Run Unit := do
  beginRollbackTransaction name
  if isImageRollout request.actionName && hasManifest then
    beginCanary request.desired name

/-- Prepare `.env` and replace the compose file. -/
def writeCompose (request : ApplyRequest) : Run Unit := do
  if request.preparesEnv then
    Op.prepareRuntimeEnv.run
  Check.requiredEnvKeys.run
  (Effect.writeFile .compose request.desired.composeText 0o644).run

/-- The report of a failure before the compose file was replaced. -/
def failEarly : Run ApplyReport := do
  quietly appendActionLog
  return { code := 1, rollback := none }

/-- The rollback of a failure after the compose file was replaced. -/
def rollBackApply (request : ApplyRequest) (name : BackupName) : Run ApplyReport := do
  let ok ← restoreAndVerifyBackup request.desired.slot name
  appendActionLog
  return { code := 1, rollback := some ok }

/-- `write_slot_manifests`. -/
def writeSlotManifests (desired : Desired) : Run Unit := do
  let appliedAt ← Op.clock.run
  Check.stateManifestParent.run
  (Effect.writeFile .manifest (desired.manifestText appliedAt) 0o644).run
  (Effect.writeFile .stateManifest (desired.stateManifestText appliedAt) 0o644).run

/-- Finish the canary transaction of an image rollout. -/
def finishCandidate (request : ApplyRequest) : Run Unit :=
  if isImageRollout request.actionName then
    match request.desired.candidate? with
    | none => throw .candidateUnavailable
    | some candidate => Canary.finish request.desired.slot .candidateSucceeded candidate
  else
    return ()

/-- The commit of an apply whose containers passed their checks. -/
def commitApply (request : ApplyRequest) (name : BackupName) : Run Unit := do
  writeSlotManifests request.desired
  finishRollbackTransaction name
  finishCandidate request
  appendActionLog

/-- `ensure_runtime_workspace_guidance` after the containers are up: once, three times while they
settle, and once more at the end. -/
def settleGuidance : Nat → Run Bool
  | 0 => return true
  | n + 1 => do
      match ← attempt Check.workspaceGuidance.run with
      | .error _ => return false
      | .ok _ => settleGuidance n

/-- Deploy the compose file that was written, and commit or roll back. -/
def deploy (request : ApplyRequest) (name : BackupName) : Run ApplyReport := do
  let config : Bool ← (Op.docker .config).run
  if !config then
    return ← rollBackApply request name
  let up : Bool ← (Op.docker .up).run
  if !up then
    return ← rollBackApply request name
  let guided ← settleGuidance 1
  if !guided then
    return ← rollBackApply request name
  let live : Bool ← Op.liveChecks.run
  if !live then
    return ← rollBackApply request name
  let settled ← settleGuidance 4
  if !settled then
    return ← rollBackApply request name
  match ← attempt (commitApply request name) with
  | .ok _ => return { code := 0, rollback := none }
  | .error _ =>
      let ok ← restoreAndVerifyBackup request.desired.slot name
      quietly appendActionLog
      return { code := 1, rollback := some ok }

/-- Put `.env` back after a failure between its preparation and the compose file. -/
def undoEnv (request : ApplyRequest) (name : BackupName) : Run Unit :=
  if request.preparesEnv then
    quietly do
      let backup ← (Op.readBackup name).run
      restoreBackupEnv backup
  else
    return ()

/-- `_apply_desired_slot_locked`. -/
def applyDesiredSlotLocked (request : ApplyRequest) : Run ApplyReport := do
  match ← attempt (preflight request) with
  | .error _ => failEarly
  | .ok hasManifest =>
    match ← attempt backupAgentRuntimeState with
    | .error _ => failEarly
    | .ok name =>
      match ← attempt (openTransactions request hasManifest name) with
      | .error _ => failEarly
      | .ok _ =>
        match ← attempt (writeCompose request) with
        | .error _ =>
            undoEnv request name
            failEarly
        | .ok _ => deploy request name

/-- `verify_target_before_apply` of a promotion. -/
def verifyTargetBeforeApply : Run Unit := do
  Check.runtimeDir.run
  let manifest ← (Op.readFile .manifest).run
  let stateManifest ← (Op.readFile .stateManifest).run
  if !(manifest.isSome || stateManifest.isSome) then
    throw .promotionManifest
  match ← pendingRollbackBackup with
  | some pending => throw (.promotionPending pending)
  | none => Check.promotionSource.run

/-- Run a `pre_apply_admission`. -/
def Admission.admit : Admission → Run Unit
  | .none => return ()
  | .promotion => verifyTargetBeforeApply

/-- `apply_desired_slot`. -/
def applyDesiredSlot (request : ApplyRequest) : Run ApplyReport :=
  tryCatch
    (do
      Check.locks.run
      request.preApplyAdmission.admit
      applyDesiredSlotLocked request)
    fun _ => failEarly

/-! ## The operator's rollback -/

/-- The backup a rollback restores: the selected one, the pending one, the latest one, or one that
was imported just now. -/
def selectBackup (selected : Option BackupName) : Run BackupName := do
  match selected with
  | some name => return name
  | none =>
    match ← pendingRollbackBackup with
    | some name => return name
    | none =>
      match ← latestBackup with
      | some name => return name
      | none =>
        Op.importLegacyBackups.run
        match ← latestBackup with
        | some name => return name
        | none => throw .noBackup

/-- Finish the transaction a rollback was admitted with. -/
def finishRollback (name : BackupName) (expected : Option ExpectedTransaction) : Run Unit :=
  match expected with
  | none => finishRollbackTransaction name
  | some expected => finishExactRollbackTransaction name expected

/-- Finish a verified rollback and log it; a marker-bound recovery has a code of its own for a log
that fails after the commit. -/
def concludeRollback (name : BackupName) (expected : Option ExpectedTransaction) : Run Nat := do
  match ← attempt (finishRollback name expected) with
  | .error _ =>
      appendActionLog
      return 1
  | .ok _ =>
      match ← attempt appendActionLog with
      | .ok _ => return 0
      | .error e => if expected.isNone then throw e else return 3

/-- `_cmd_rollback_locked`. -/
def cmdRollbackLocked (selected : Option BackupName) (expected : Option ExpectedTransaction) :
    Run Nat := do
  let restored ← attempt do
    let name ← selectBackup selected
    let result ← restoreBackup name expected
    return (name, result)
  match restored with
  | .error (.markerBound reason) => throw (.markerBound reason)
  | .error _ =>
      quietly appendActionLog
      return 1
  | .ok (name, ok, reason) =>
    if !ok then
      appendActionLog
      return 1
    if reason = .rollbackEmptyBaselineRestored then
      concludeRollback name expected
    else
      match ← attempt (Op.readContract name).run with
      | .error _ =>
          appendActionLog
          return 1
      | .ok _ =>
        let passed : Bool ← Op.liveChecks.run
        if !passed then
          appendActionLog
          return 1
        concludeRollback name expected

/-- `cmd_rollback` without expectations. -/
def cmdRollbackPlain : Run Nat :=
  tryCatch
    (do
      Check.locks.run
      cmdRollbackLocked none none)
    fun _ => do
      quietly appendActionLog
      return 1

/-- `cmd_rollback` bound to an expected marker. -/
def cmdRollbackExact (expected : ExpectedTransaction) : Run Nat :=
  tryCatch
    (do
      Check.recoveryTarget.run
      let _ ← requireExactPendingRollback expected
      Check.locks.run
      let name ← requireExactPendingRollback expected
      let code ← cmdRollbackLocked (some name) (some expected)
      let observed ← attempt pendingRollbackIdentity
      match observed with
      | .ok none => return if code = 0 then 0 else 1
      | _ => return 1)
    fun _ => return 1

/-- `cmd_rollback`. -/
def cmdRollback : Option ExpectedTransaction → Run Nat
  | none => cmdRollbackPlain
  | some expected => cmdRollbackExact expected

end AgentRuntimeOps.Runtime
