import AgentRuntimeOps.Lib.Bytes
import AgentRuntimeOps.Lib.Crash

/-!
# A runtime slot and the steps that change it

The durable state of one slot of the host: the four files that `opsctl` manages for it, its
backups, the rollback transaction marker, the canary transaction and its receipts, and the
containers.  The functions of `runtime_backup.py`, `canary_transaction.py` and `runtime_apply.py`
are `Program`s over the operations `Op`; an operation is one durable step of the file system, one
docker command, or one read.

`Outcome fault` is what an operation may do on a host where the steps that `fault` admits can go
wrong: a step of the file system raises an `OSError` with its effect done or not done, docker
commands and checks answer as they please, and a failed docker command leaves the containers in
any state.

A slot's runs are serialised by `runtime_host_mutation_lock` and `runtime_transaction_lock`, so
nothing else writes these files during a run.
-/

namespace AgentRuntimeOps.Runtime

open AgentRuntimeOps.Lib

/-! ## Data -/

/-- The files a backup covers: the compose file, `.agent-runtime-manifest`, the state manifest
`manifest.yaml` and `.env`. -/
inductive Managed where
  | compose
  | manifest
  | stateManifest
  | env
  deriving DecidableEq, Repr

/-- A regular file. -/
structure FileState where
  bytes : List UInt8
  mode : Nat
  uid : Nat
  gid : Nat
  deriving DecidableEq, Repr

/-- A digest as `sha256:` and 64 hexadecimal digits, or what was written in its place. -/
abbrev Digest : Type := List Char

/-- `secrets.token_hex(32)`: tokens are told apart by when they were drawn. -/
abbrev Token : Type := Nat

/-- The name of a backup directory: its timestamp (an instant and the zone's offset) and its
suffix, 1 when the name has none. -/
structure BackupName where
  instant : Int
  offset : Int
  suffix : Nat
  deriving DecidableEq, Repr

/-- `backup.json`.  `had_env` is left out only in some imported legacy backups. -/
structure Metadata where
  createdAt : Int
  hadCompose : Bool
  hadManifest : Bool
  hadStateManifest : Bool
  hadEnv : Option Bool
  envMode : Option Nat
  envUid : Option Nat
  envGid : Option Nat
  artifactDigest : Managed → Option Digest

/-- The presence flag of a managed file. -/
def Metadata.had (metadata : Metadata) : Managed → Option Bool
  | .compose => some metadata.hadCompose
  | .manifest => some metadata.hadManifest
  | .stateManifest => some metadata.hadStateManifest
  | .env => metadata.hadEnv

/-- A published backup directory. -/
structure Backup where
  metadata : Metadata
  artifact : Managed → Option FileState

/-- `.agent-runtime-rollback-transaction.json`. -/
structure Marker where
  backupName : BackupName
  backupMetadataDigest : Digest
  transactionId : Token
  deriving DecidableEq, Repr

/-- The product and the wrapper image of a deployment, by digest. -/
structure ImagePair where
  product : Digest
  wrapper : Digest
  deriving DecidableEq, Repr

/-- The canary slot's `transaction.json`. -/
structure CanaryTransaction where
  backupMetadataDigest : Digest
  backupName : BackupName
  candidate : ImagePair
  createdAt : Int
  family : List Char
  prestate : ImagePair
  slot : List Char
  transactionId : Token
  deriving DecidableEq, Repr

/-- How a canary transaction ended. -/
inductive CanaryOutcome where
  | candidateSucceeded
  | rollbackSucceeded
  deriving DecidableEq, Repr

/-- `<transaction id>.receipt.json`; its `receipt_digest` is a function of the id and the
outcome. -/
structure CanaryReceipt where
  candidate : ImagePair
  outcome : CanaryOutcome
  prestate : ImagePair
  slot : List Char
  transactionId : Token
  deriving DecidableEq, Repr

/-- What `load_backup_runtime_contract` reads of a backup's manifests: the image references. -/
structure Contract where
  productImage : Option (List Char)
  wrapperImage : Option (List Char)
  deriving DecidableEq, Repr

/-- The durable state of a slot.  `temp` is the temporary file of the restore that is running; the
files of interrupted restores keep their random names and are not looked at again.  `stagings`
counts the `.staging-` directories under the backup root, and `receipts` holds every receipt ever
written, the newest first. -/
structure SlotState where
  files : Managed → Option FileState
  backups : List (BackupName × Backup)
  stagings : Nat
  marker : Option Marker
  canary : Option CanaryTransaction
  receipts : List CanaryReceipt
  temp : Option FileState
  containers : Option (List UInt8)
  tokens : Nat

/-! ## Exceptions -/

/-- Why marker-bound recovery was refused. -/
inductive MarkerReason where
  | pendingTransactionInvalid
  | pendingTransactionAbsent
  | transactionIdMismatch
  | backupNameMismatch
  | backupMetadataMismatch
  | markerMismatch
  | backupIdentityChangedBeforeRestore
  | backupIdentityChangedBeforeCompletion
  deriving DecidableEq, Repr

/-- What the functions raise. -/
inductive Raised where
  /-- An `OSError` or a timeout. -/
  | os (detail : String)
  /-- The exception of a check that is only known by whether it raises. -/
  | check (detail : String)
  /-- `rollback transaction must be completed before a new apply: {name}` -/
  | rollbackPending (name : BackupName)
  /-- `another rollback transaction is pending: {name}` -/
  | anotherRollbackPending (name : BackupName)
  /-- `rollback transaction identity changed before completion` -/
  | rollbackIdentityChanged
  /-- `rollback transaction backup metadata digest mismatch` -/
  | markerDigestMismatch
  /-- `rollback backup must be a regular directory: {path}` -/
  | backupAbsent (name : BackupName)
  /-- `rollback backup artifact digest mismatch: {path}` and the other artifact checks -/
  | artifactMismatch (name : BackupName)
  /-- `managed artifact is too large: {path}` -/
  | artifactTooLarge
  /-- `unexpected managed backup entry: {item}` -/
  | unexpectedBackupEntry
  /-- `backup restore source must be a regular file: {source}` -/
  | restoreSource (file : Managed)
  /-- `backup {key} must be an integer` -/
  | envIdentity
  /-- `no agent-runtime backup` -/
  | noBackup
  /-- `promotion target is missing an existing runtime manifest: {slot}` -/
  | promotionManifest
  /-- `promotion target has a pending rollback transaction: target={slot} backup={name}` -/
  | promotionPending (name : BackupName)
  /-- `--targets must name the promotion targets explicitly`, `image-promote targets must be unique`
  or `image-promote source must not also be a target` -/
  | promotionTargets
  /-- `MarkerBoundRecoveryError` -/
  | markerBound (reason : MarkerReason)
  /-- `first agent-runtime apply requires --allow-first-apply` -/
  | firstApply
  /-- `canary transaction image or backup identity is incomplete` -/
  | canaryIncomplete
  /-- `candidate image digests are unavailable` -/
  | candidateUnavailable
  /-- `rollback prestate image digests are unavailable` -/
  | prestateUnavailable
  /-- `rollback prestate image digest mismatch` -/
  | prestateMismatch
  /-- `canary family invalid` -/
  | canaryFamily
  /-- `invalid canary slot` -/
  | canarySlot
  /-- `{field} must be a canonical sha256 digest` -/
  | digestForm
  /-- `canary transaction already exists` -/
  | canaryExists
  /-- `canary transaction absent` -/
  | canaryAbsent
  /-- `canary transaction is unreadable` -/
  | canaryUnreadable
  /-- `canary transaction {field} invalid` -/
  | canaryInvalid
  /-- `candidate product digest mismatch` or `candidate wrapper digest mismatch` -/
  | candidateDigestMismatch
  /-- `rollback product digest mismatch` or `rollback wrapper digest mismatch` -/
  | rollbackDigestMismatch
  deriving DecidableEq, Repr

/-! ## Operations -/

/-- Steps of other modules, which matter here only by whether they raise. -/
inductive Check where
  | locks
  | renderCompose
  | staticChecks
  | runtimeSocketSource
  | runtimeDir
  | nasWorkspaceDir
  | workspaceGuidance
  | configPreflight
  | requiredEnvKeys
  | rolloutTarget
  | promotionSource
  | recoveryTarget
  | stateManifestParent
  | managedTargets
  | appendActionLog
  deriving DecidableEq, Repr

/-- `docker compose config`, `up`, `down`, and the queries of `_empty_baseline_project_residue`. -/
inductive Docker where
  | config
  | up
  | down
  | projectResidue
  deriving DecidableEq, Repr

/-- Durable steps of the file system. -/
inductive Effect where
  /-- `tempfile.mkdtemp` in the backup root. -/
  | makeStaging
  /-- Rename the staging directory to its published name. -/
  | publishBackup (name : BackupName) (backup : Backup)
  /-- `shutil.rmtree` of the staging directory. -/
  | removeStaging
  /-- Replace the rollback transaction marker. -/
  | writeMarker (marker : Marker)
  /-- Unlink the rollback transaction marker. -/
  | unlinkMarker
  /-- Replace the canary transaction file. -/
  | writeCanary (transaction : CanaryTransaction)
  /-- Replace a canary receipt file. -/
  | writeReceipt (receipt : CanaryReceipt)
  /-- Unlink the canary transaction file. -/
  | unlinkCanary
  /-- `atomic_write` of a managed file, owned by root. -/
  | writeFile (file : Managed) (bytes : List UInt8) (mode : Nat)
  /-- `tempfile.mkstemp` beside a managed file. -/
  | makeTemp
  /-- `shutil.copy2` of a backup artifact to the temporary file. -/
  | copyToTemp (source : FileState)
  /-- `chmod` of the temporary file. -/
  | chmodTemp (mode : Nat)
  /-- `chown` of the temporary file. -/
  | chownTemp (uid gid : Nat)
  /-- `os.replace` of the temporary file over a managed file. -/
  | replaceTemp (file : Managed)
  /-- Unlink the temporary file if it is still there. -/
  | removeTemp
  /-- Unlink a managed file. -/
  | unlinkFile (file : Managed)

/-- The steps the programs are made of. -/
inductive Op where
  /-- A step of another module. -/
  | check (step : Check)
  /-- A durable step. -/
  | effect (effect : Effect)
  /-- The wall clock. -/
  | clock
  /-- `secrets.token_hex(32)`. -/
  | token
  /-- Look at a managed file. -/
  | readFile (file : Managed)
  /-- `_load_rollback_transaction_with_identity`. -/
  | readMarker
  /-- `_validate_backup_dir` and `_validate_backup_integrity`. -/
  | readBackup (name : BackupName)
  /-- List the backup root. -/
  | listBackups
  /-- `load_backup_runtime_contract`. -/
  | readContract (name : BackupName)
  /-- `shutil.copy2` of a managed file into the staging directory. -/
  | copyToStaging (file : Managed)
  /-- Look at the canary transaction file. -/
  | readCanary
  /-- The caller's `prepare_runtime_env`, which rewrites `.env`. -/
  | prepareRuntimeEnv
  /-- `import_legacy_agent_runtime_backups`. -/
  | importLegacyBackups
  /-- A docker command; the answer says whether it succeeded. -/
  | docker (command : Docker)
  /-- `run_live_slot_checks_with_wait`; the answer says whether all checks passed. -/
  | liveChecks

/-- What an operation answers. -/
@[reducible] def Op.Res : Op → Type
  | .check _ => Unit
  | .effect _ => Unit
  | .clock => Int
  | .token => Token
  | .readFile _ => Option FileState
  | .readMarker => Option Marker
  | .readBackup _ => Backup
  | .listBackups => List BackupName
  | .readContract _ => Contract
  | .copyToStaging _ => FileState
  | .readCanary => Option CanaryTransaction
  | .prepareRuntimeEnv => Unit
  | .importLegacyBackups => Unit
  | .docker _ => Bool
  | .liveChecks => Bool

/-- A computation on a slot. -/
abbrev Run (α : Type) : Type := Program Op Op.Res Raised α

/-- One operation. -/
abbrev Op.run (op : Op) : Run op.Res := Program.perform op

/-- One durable step. -/
abbrev Effect.run (effect : Effect) : Run Unit := (Op.effect effect).run

/-- One step of another module. -/
abbrev Check.run (step : Check) : Run Unit := (Op.check step).run

/-! ## What an operation does -/

/-- What the model takes from outside: SHA-256 of a file, of `backup.json` and of the marker, and
the contract that a backup's manifests describe. -/
class Host where
  sha256 : List UInt8 → Digest
  metadataDigest : Metadata → Digest
  markerDigest : Marker → Digest
  contract : Backup → Except Raised Contract

/-- `_LEGACY_BACKUP_MAX_FILE_BYTES`, the limit of `_sha256_file`. -/
def maxArtifactBytes : Nat := 8 * 1024 * 1024

/-- Set-user-ID. -/
def setUid : Nat := 0o4000

/-- Set-group-ID. -/
def setGid : Nat := 0o2000

/-- The mode of a regular file after `chown`.  As chown(2) documents for Linux, also for root the
set-user-ID bit is cleared, and the set-group-ID bit when the group may execute the file. -/
def chownMode (mode : Nat) : Nat :=
  let mode := if mode.testBit 11 then mode - setUid else mode
  if mode.testBit 10 && mode.testBit 3 then mode - setGid else mode

namespace SlotState

/-- The state with one managed file replaced or removed. -/
def setFile (w : SlotState) (file : Managed) (content : Option FileState) : SlotState :=
  { w with files := Function.update w.files file content }

/-- The published backup of that name. -/
def backup? (w : SlotState) (name : BackupName) : Option Backup := w.backups.lookup name

end SlotState

variable [Host]

/-- `_validate_backup_integrity` of one artifact: what was there has its digest, what was not there
has neither digest nor file. -/
def Backup.intactAt (b : Backup) (file : Managed) : Bool :=
  match b.metadata.had file with
  | some true =>
      match b.artifact file with
      | some f => f.bytes.length ≤ maxArtifactBytes &&
          b.metadata.artifactDigest file == some (Host.sha256 f.bytes)
      | none => false
  | _ => b.metadata.artifactDigest file == none && (b.artifact file).isNone

/-- `_validate_backup_integrity`. -/
def Backup.intact (b : Backup) : Bool :=
  b.intactAt .manifest && b.intactAt .env && b.intactAt .compose && b.intactAt .stateManifest

/-- `_validate_backup_dir` and `_validate_backup_integrity`. -/
def SlotState.loadBackup (w : SlotState) (name : BackupName) : Except Raised Backup :=
  match w.backup? name with
  | none => .error (.backupAbsent name)
  | some b => if b.intact then .ok b else .error (.artifactMismatch name)

/-- `_load_rollback_transaction_with_identity`. -/
def SlotState.loadMarker (w : SlotState) : Except Raised (Option Marker) :=
  match w.marker with
  | none => .ok none
  | some m =>
      match w.loadBackup m.backupName with
      | .error e => .error e
      | .ok b =>
          if m.backupMetadataDigest = Host.metadataDigest b.metadata then .ok (some m)
          else .error .markerDigestMismatch

/-- List the backup root: staging directories do not belong there. -/
def SlotState.listBackups (w : SlotState) : Except Raised (List BackupName) :=
  if w.stagings = 0 then .ok (w.backups.map Prod.fst) else .error .unexpectedBackupEntry

/-- `load_backup_runtime_contract`. -/
def SlotState.loadContract (w : SlotState) (name : BackupName) : Except Raised Contract :=
  match w.backup? name with
  | none => .error (.backupAbsent name)
  | some b => Host.contract b

/-- `shutil.copy2` of a managed file. -/
def SlotState.copyFile (w : SlotState) (file : Managed) : Except Raised FileState :=
  match w.files file with
  | none => .error (.os "No such file or directory")
  | some f => .ok f

/-- What a durable step does. -/
def Effect.apply : Effect → SlotState → SlotState
  | .makeStaging, w => { w with stagings := w.stagings + 1 }
  | .publishBackup name b, w =>
      { w with stagings := w.stagings - 1, backups := (name, b) :: w.backups }
  | .removeStaging, w => { w with stagings := w.stagings - 1 }
  | .writeMarker m, w => { w with marker := some m }
  | .unlinkMarker, w => { w with marker := none }
  | .writeCanary tx, w => { w with canary := some tx }
  | .writeReceipt r, w => { w with receipts := r :: w.receipts }
  | .unlinkCanary, w => { w with canary := none }
  | .writeFile file bytes mode, w =>
      w.setFile file (some { bytes := bytes, mode := mode, uid := 0, gid := 0 })
  | .makeTemp, w => { w with temp := some { bytes := [], mode := 0o600, uid := 0, gid := 0 } }
  | .copyToTemp source, w =>
      { w with temp := w.temp.map fun t => { t with bytes := source.bytes, mode := source.mode } }
  | .chmodTemp mode, w => { w with temp := w.temp.map fun t => { t with mode := mode } }
  | .chownTemp uid gid, w =>
      { w with
        temp := w.temp.map fun t => { t with mode := chownMode t.mode, uid := uid, gid := gid } }
  | .replaceTemp file, w => { w.setFile file w.temp with temp := none }
  | .removeTemp, w => { w with temp := none }
  | .unlinkFile file, w => w.setFile file none

/-- The containers after a docker command that succeeded: `up` creates those of the compose
file. -/
def SlotState.afterDocker (w : SlotState) : Docker → SlotState
  | .up => { w with containers := (w.files .compose).map FileState.bytes }
  | .down => { w with containers := none }
  | .config => w
  | .projectResidue => w

/-- The containers after a docker command that failed. -/
def SlotState.AfterFailedDocker (w : SlotState) (command : Docker) (w' : SlotState) : Prop :=
  match command with
  | .up | .down => ∃ containers, w' = { w with containers := containers }
  | .config | .projectResidue => w' = w

/-- The answer of a docker command that ran: the residue query succeeds when no container is
left. -/
def SlotState.dockerAnswer (w : SlotState) : Docker → Bool
  | .projectResidue => w.containers.isNone
  | _ => true

/-- Which steps may go wrong: `fault w op done` admits that `op` fails in `w`, with its effect done
or not.  A replace or an unlink is followed by an `fsync` of the directory, so that it can fail
after it was done. -/
abbrev Faults : Type := SlotState → Op → Bool → Prop

/-- Any step may fail. -/
def anyFault : Faults := fun _ _ _ => True

/-- No step fails. -/
def noFault : Faults := fun _ _ _ => False

/-- An answer that is computed from the state, or an `OSError`. -/
def Answered {α : Type} (faulty : Prop) (answer r : Except Raised α) : Prop :=
  r = answer ∨ faulty ∧ ∃ detail, r = .error (.os detail)

/-- What an operation may answer. -/
def Outcome (fault : Faults) : Program.Answers Op Op.Res Raised SlotState := fun w op =>
  match op with
  | .check c => fun r w' => w' = w ∧ (r = .ok () ∨ fault w (.check c) false)
  | .effect e => fun r w' =>
      (r = .ok () ∧ w' = e.apply w) ∨
        (∃ detail, r = .error (.os detail)) ∧
          (fault w (.effect e) false ∧ w' = w ∨ fault w (.effect e) true ∧ w' = e.apply w)
  | .clock => fun r w' => (∃ t : Int, r = .ok t) ∧ w' = w
  | .token => fun r w' => r = .ok w.tokens ∧ w' = { w with tokens := w.tokens + 1 }
  | .readFile file => fun r w' =>
      Answered (fault w (.readFile file) false) (.ok (w.files file)) r ∧ w' = w
  | .readMarker => fun r w' => Answered (fault w .readMarker false) w.loadMarker r ∧ w' = w
  | .readBackup name => fun r w' =>
      Answered (fault w (.readBackup name) false) (w.loadBackup name) r ∧ w' = w
  | .listBackups => fun r w' => Answered (fault w .listBackups false) w.listBackups r ∧ w' = w
  | .readContract name => fun r w' =>
      Answered (fault w (.readContract name) false) (w.loadContract name) r ∧ w' = w
  | .copyToStaging file => fun r w' =>
      Answered (fault w (.copyToStaging file) false) (w.copyFile file) r ∧ w' = w
  | .readCanary => fun r w' => Answered (fault w .readCanary false) (.ok w.canary) r ∧ w' = w
  | .prepareRuntimeEnv => fun r w' =>
      (r = .ok () ∨ fault w .prepareRuntimeEnv false) ∧ ∃ content, w' = w.setFile .env content
  | .importLegacyBackups => fun r w' =>
      (r = .ok () ∨ fault w .importLegacyBackups false) ∧
        ∃ imported, w' = { w with backups := w.backups ++ imported }
  | .docker command => fun r w' =>
      (r = .ok (w.dockerAnswer command) ∧ w' = w.afterDocker command) ∨
        fault w (.docker command) false ∧ r ≠ .ok true ∧ w.AfterFailedDocker command w'
  | .liveChecks => fun r w' => (r = .ok true ∨ fault w .liveChecks false) ∧ w' = w

end AgentRuntimeOps.Runtime
