import AgentRuntimeOps.Runtime.Basic

/-!
# Backups and rollback transactions

`runtime_backup.py`: a backup of the four managed files is staged and published by one rename; a
rollback transaction marker binds one backup until the rollback is finished; a restore puts every
file back, or removes it.
-/

namespace AgentRuntimeOps.Runtime

open AgentRuntimeOps.Lib

variable [Host]

/-! ## The rollback transaction marker -/

/-- The identity of a pending rollback that a marker-bound recovery expects. -/
structure ExpectedTransaction where
  transactionId : Token
  backupName : BackupName
  backupMetadataDigest : Digest
  markerDigest : Digest
  deriving DecidableEq, Repr

/-- `pending_rollback_identity` of a marker. -/
def Marker.identity (m : Marker) : ExpectedTransaction :=
  { transactionId := m.transactionId, backupName := m.backupName,
    backupMetadataDigest := m.backupMetadataDigest, markerDigest := Host.markerDigest m }

/-- `pending_rollback_backup`. -/
def pendingRollbackBackup : Run (Option BackupName) := do
  let pending ← Op.readMarker.run
  return pending.map Marker.backupName

/-- `pending_rollback_identity`. -/
def pendingRollbackIdentity : Run (Option ExpectedTransaction) := do
  let pending ← Op.readMarker.run
  return pending.map Marker.identity

/-- The marker of a new rollback transaction. -/
def newMarker (name : BackupName) (backup : Backup) (transactionId : Token) : Marker :=
  { backupName := name, backupMetadataDigest := Host.metadataDigest backup.metadata,
    transactionId := transactionId }

/-- `_begin_rollback_transaction`. -/
def beginRollbackTransaction (name : BackupName) : Run Unit := do
  let backup ← (Op.readBackup name).run
  match ← pendingRollbackBackup with
  | some existing =>
      if existing ≠ name then
        throw (.anotherRollbackPending existing)
  | none =>
      let transactionId ← Op.token.run
      (Effect.writeMarker (newMarker name backup transactionId)).run

/-- `_finish_rollback_transaction`. -/
def finishRollbackTransaction (name : BackupName) : Run Unit := do
  let pending ← pendingRollbackBackup
  if pending ≠ some name then
    throw .rollbackIdentityChanged
  Effect.unlinkMarker.run

/-- The comparison of `require_exact_pending_rollback`, field by field. -/
def ExpectedTransaction.mismatch? (expected observed : ExpectedTransaction) :
    Option MarkerReason :=
  if observed.transactionId ≠ expected.transactionId then some .transactionIdMismatch
  else if observed.backupName ≠ expected.backupName then some .backupNameMismatch
  else if observed.backupMetadataDigest ≠ expected.backupMetadataDigest then
    some .backupMetadataMismatch
  else if observed.markerDigest ≠ expected.markerDigest then some .markerMismatch
  else none

/-- `require_exact_pending_rollback`. -/
def requireExactPendingRollback (expected : ExpectedTransaction) : Run BackupName := do
  let observed ←
    tryCatch pendingRollbackIdentity fun _ => throw (.markerBound .pendingTransactionInvalid)
  match observed with
  | none => throw (.markerBound .pendingTransactionAbsent)
  | some observed =>
      match expected.mismatch? observed with
      | some reason => throw (.markerBound reason)
      | none =>
          let _ ← (Op.readBackup observed.backupName).run
          return observed.backupName

/-- `finish_exact_rollback_transaction`. -/
def finishExactRollbackTransaction (name : BackupName) (expected : ExpectedTransaction) :
    Run Unit := do
  let observed ← requireExactPendingRollback expected
  if observed ≠ name then
    throw (.markerBound .backupIdentityChangedBeforeCompletion)
  Effect.unlinkMarker.run

/-! ## Taking a backup -/

/-- The order of `_backup_sort_key`. -/
def BackupName.later (a b : BackupName) : Bool :=
  b.instant < a.instant || (b.instant == a.instant && b.suffix < a.suffix)

/-- `_next_backup_path`: the next free suffix among the backups of the same second. -/
def nextBackupName (names : List BackupName) (original : BackupName) : BackupName :=
  let suffixes := (names.filter fun n => n.instant == original.instant).map BackupName.suffix
  match suffixes.max? with
  | none => original
  | some suffix => { original with suffix := suffix + 1 }

/-- Copy a file into the staging directory when it was there. -/
def stageFile (had : Bool) (file : Managed) : Run (Option FileState) :=
  if had then do
    let copy ← (Op.copyToStaging file).run
    return some copy
  else
    return none

/-- `_sha256_file` of a staged artifact. -/
def sha256File : Option FileState → Run (Option Digest)
  | none => return none
  | some f =>
      if f.bytes.length ≤ maxArtifactBytes then return some (Host.sha256 f.bytes)
      else throw .artifactTooLarge

/-- The staged backup: the copies, the digests and `backup.json`.  The copy of `.env` is made
unreadable to others. -/
def stageBackup (createdAt : Int) (compose manifest stateManifest env : Option FileState) :
    Run Backup := do
  let stagedCompose ← stageFile compose.isSome .compose
  let stagedEnv ← stageFile env.isSome .env
  let stagedEnv := stagedEnv.map fun f => { f with mode := 0o600 }
  let stagedManifest ← stageFile manifest.isSome .manifest
  let stagedStateManifest ← stageFile stateManifest.isSome .stateManifest
  let manifestDigest ← sha256File stagedManifest
  let envDigest ← sha256File stagedEnv
  let composeDigest ← sha256File stagedCompose
  let stateManifestDigest ← sha256File stagedStateManifest
  return {
    metadata := {
      createdAt := createdAt
      hadCompose := compose.isSome
      hadManifest := manifest.isSome
      hadStateManifest := stateManifest.isSome
      hadEnv := some env.isSome
      envMode := env.map FileState.mode
      envUid := env.map FileState.uid
      envGid := env.map FileState.gid
      artifactDigest := fun
        | .compose => composeDigest
        | .manifest => manifestDigest
        | .stateManifest => stateManifestDigest
        | .env => envDigest }
    artifact := fun
      | .compose => stagedCompose
      | .manifest => stagedManifest
      | .stateManifest => stagedStateManifest
      | .env => stagedEnv }

/-- `backup_agent_runtime_state`.  Under the slot's lock no other process publishes a backup, so
the chosen name is free and the rename is not tried again. -/
def backupAgentRuntimeState : Run BackupName := do
  match ← pendingRollbackBackup with
  | some pending => throw (.rollbackPending pending)
  | none =>
    let instant ← Op.clock.run
    let offset ← Op.clock.run
    let names ← Op.listBackups.run
    let name := nextBackupName names { instant := instant, offset := offset, suffix := 1 }
    let env ← (Op.readFile .env).run
    let createdAt ← Op.clock.run
    let compose ← (Op.readFile .compose).run
    let manifest ← (Op.readFile .manifest).run
    let stateManifest ← (Op.readFile .stateManifest).run
    Effect.makeStaging.run
    tryCatch
      (do
        let backup ← stageBackup createdAt compose manifest stateManifest env
        (Effect.publishBackup name backup).run
        return name)
      fun e => do
        tryCatch Effect.removeStaging.run fun _ => return ()
        throw e

/-- `latest_backup`. -/
def latestBackup : Run (Option BackupName) := do
  let names ← Op.listBackups.run
  return names.foldl
    (fun latest name =>
      match latest with
      | none => some name
      | some l => if l.later name then some l else some name)
    none

/-! ## Restoring a backup -/

/-- Set the mode and the owner of the temporary file, if any are to be set. -/
def setTempIdentity : Option (Nat × Nat × Nat) → Run Unit
  | none => return ()
  | some (mode, uid, gid) => do
      (Effect.chmodTemp mode).run
      (Effect.chownTemp uid gid).run

/-- `_restore_regular_file`, with the mode and the owner to set, if any. -/
def restoreRegularFile (source : Option FileState) (target : Managed)
    (identity : Option (Nat × Nat × Nat)) : Run Unit :=
  match source with
  | none => throw (.restoreSource target)
  | some source => do
    Check.managedTargets.run
    Effect.makeTemp.run
    tryCatch
      (do
        (Effect.copyToTemp source).run
        setTempIdentity identity
        (Effect.replaceTemp target).run)
      fun e => do
        Effect.removeTemp.run
        throw e

/-- `_remove_regular_file`. -/
def removeRegularFile (target : Managed) : Run Unit := do
  Check.managedTargets.run
  match ← (Op.readFile target).run with
  | none => return ()
  | some _ => (Effect.unlinkFile target).run

/-- `_validate_env_restore_inputs`: the flag, and the mode and the owner to restore. -/
def validateEnvRestoreInputs (backup : Backup) : Run (Option Bool × Option (Nat × Nat × Nat)) := do
  Check.managedTargets.run
  match backup.metadata.hadEnv with
  | some true =>
      if (backup.artifact .env).isNone then
        throw (.restoreSource .env)
      match backup.metadata.envMode, backup.metadata.envUid, backup.metadata.envGid with
      | some mode, some uid, some gid => return (some true, some (mode, uid, gid))
      | _, _, _ => throw .envIdentity
  | had => return (had, none)

/-- `restore_backup_env`. -/
def restoreBackupEnv (backup : Backup) : Run Unit := do
  match ← validateEnvRestoreInputs backup with
  | (none, _) => return ()
  | (some true, identity) => restoreRegularFile (backup.artifact .env) .env identity
  | (some false, _) => removeRegularFile .env

/-- Restore or remove one of the three files of the restore plan. -/
def restorePlanned (backup : Backup) (had : Bool) (target : Managed) : Run Unit :=
  if had then restoreRegularFile (backup.artifact target) target none
  else removeRegularFile target

/-- Why `restore_backup` returned. -/
inductive RestoreReason where
  | emptyBaselineComposeDownFailed
  | emptyBaselineActiveFilesRemain
  | emptyBaselineResidue
  | rollbackEmptyBaselineRestored
  | rollbackComposeConfigFailed
  | rollbackComposeUpFailed
  | rollbackApplied
  deriving DecidableEq, Repr

/-- The admission of `restore_backup`: without an expected transaction the marker is begun, with
one it must be pending exactly as expected. -/
def admitRestore (name : BackupName) (expected : Option ExpectedTransaction) : Run Unit :=
  match expected with
  | none => beginRollbackTransaction name
  | some expected => do
      let exact ← requireExactPendingRollback expected
      if exact ≠ name then
        throw (.markerBound .backupIdentityChangedBeforeRestore)
      Check.stateManifestParent.run
      Check.managedTargets.run

/-- Put the four files back. -/
def restoreFiles (backup : Backup) : Run Unit := do
  restoreBackupEnv backup
  restorePlanned backup backup.metadata.hadCompose .compose
  restorePlanned backup backup.metadata.hadManifest .manifest
  restorePlanned backup backup.metadata.hadStateManifest .stateManifest

/-- The end of a restore to an empty baseline: nothing that was not there may remain. -/
def verifyEmptyBaseline (backup : Backup) : Run (Bool × RestoreReason) := do
  let compose ← (Op.readFile .compose).run
  let manifest ← (Op.readFile .manifest).run
  let stateManifest ← (Op.readFile .stateManifest).run
  let env ← (Op.readFile .env).run
  if compose.isSome || manifest.isSome ||
      (!backup.metadata.hadStateManifest && stateManifest.isSome) ||
      (backup.metadata.hadEnv == some false && env.isSome) then
    return (false, .emptyBaselineActiveFilesRemain)
  let clean : Bool ← (Op.docker .projectResidue).run
  if clean then
    return (true, .rollbackEmptyBaselineRestored)
  return (false, .emptyBaselineResidue)

/-- The end of a restore to a deployed baseline: its containers are created again. -/
def redeployBaseline : Run (Bool × RestoreReason) := do
  let config : Bool ← (Op.docker .config).run
  if !config then
    return (false, .rollbackComposeConfigFailed)
  let up : Bool ← (Op.docker .up).run
  if !up then
    return (false, .rollbackComposeUpFailed)
  return (true, .rollbackApplied)

/-- Stop the containers of a compose file that the baseline does not have. -/
def stopUnwantedContainers (backup : Backup) : Run Bool := do
  if backup.metadata.hadCompose then
    return true
  match ← (Op.readFile .compose).run with
  | none => return true
  | some _ => (Op.docker .down).run

/-- Without an expected transaction the parent of the state manifest is created before the marker
is looked at. -/
def ensureStateManifestParent (expected : Option ExpectedTransaction) : Run Unit :=
  if expected.isNone then Check.stateManifestParent.run else return ()

/-- `restore_backup`. -/
def restoreBackup (name : BackupName) (expected : Option ExpectedTransaction) :
    Run (Bool × RestoreReason) := do
  let backup ← (Op.readBackup name).run
  let _ ← validateEnvRestoreInputs backup
  ensureStateManifestParent expected
  Check.managedTargets.run
  admitRestore name expected
  let stopped ← stopUnwantedContainers backup
  if !stopped then
    return (false, .emptyBaselineComposeDownFailed)
  restoreFiles backup
  if backup.metadata.hadCompose then redeployBaseline else verifyEmptyBaseline backup

end AgentRuntimeOps.Runtime
