import AgentRuntimeOps.BackupRoot.Legacy
import AgentRuntimeOps.Lib.Crash

/-!
# The managed backup root

The directory `agent_backup_root(state_root, slot)` with its entries, and the functions of
`runtime_backup.py` that publish a directory there or look for one.  Every publication is staged
in the root itself and renamed.

The functions are `Program`s over the operations `Op`.  Under the slot's locks nothing else changes
the root, so the entries that one listing finds are read together with their names.  A file whose
owner, links or kind do not pass is not told apart from a directory that is not `controlled`.
-/

namespace AgentRuntimeOps.BackupRoot

open AgentRuntimeOps.Lib
open AgentRuntimeOps.Runtime (Managed BackupName Digest FileState maxArtifactBytes nextBackupName)

/-! ## Directories -/

/-- `legacy_source` of an imported backup. -/
structure LegacySource where
  backupJsonDigest : Digest
  backupName : BackupName
  sourceIdentity : Digest
  deriving DecidableEq, Repr

/-- `backup.json` of a managed backup. -/
structure Metadata where
  createdAt : List Nat
  hadCompose : Bool
  hadManifest : Bool
  hadStateManifest : Bool
  hadEnv : Option Bool
  envGid : Option Nat
  envMode : Option Nat
  envUid : Option Nat
  stateManifestPath : List Nat
  artifactDigest : Managed → Option Digest
  legacySource : Option LegacySource

/-- The presence marker of an artifact. -/
def Metadata.had (metadata : Metadata) : Managed → Option Bool
  | .compose => some metadata.hadCompose
  | .manifest => some metadata.hadManifest
  | .stateManifest => some metadata.hadStateManifest
  | .env => metadata.hadEnv

/-- The file `backup.json` of a directory. -/
inductive MetadataFile where
  | absent
  /-- A regular file that `_load_validated_backup_metadata` does not accept. -/
  | invalid
  | valid (metadata : Metadata)

/-- A directory of the backup root. -/
structure Dir where
  controlled : Bool
  metadata : MetadataFile
  artifact : Managed → Option (List UInt8)
  diagnostics : Diagnostic → Option (List UInt8)

/-- An entry of the backup root. -/
inductive Node where
  | dir (dir : Dir)
  | notDirectory

/-- What `tempfile.mkdtemp` makes. -/
def emptyDir : Dir where
  controlled := true
  metadata := .absent
  artifact _ := none
  diagnostics _ := none

/-- A rename may replace it. -/
def Dir.isEmpty (d : Dir) : Bool :=
  (match d.metadata with
    | .absent => true
    | _ => false) &&
    artifacts.all (fun file => (d.artifact file).isNone) &&
    Diagnostic.all.all fun diagnostic => (d.diagnostics diagnostic).isNone

/-- The backup root of a slot, and what its functions read besides. -/
structure World where
  entries : EntryName → Option Node
  /-- `pending_rollback_backup`. -/
  pending : Option BackupName
  /-- The managed files of the runtime. -/
  runtime : Managed → Option FileState
  legacy : LegacyRoot

/-- The world with one entry replaced, made or removed. -/
def World.setEntry (w : World) (entry : EntryName) (node : Option Node) : World :=
  { w with entries := Function.update w.entries entry node }

/-- One artifact is as the metadata says. -/
def Dir.intactAt (d : Dir) (metadata : Metadata) (file : Managed) : Bool :=
  match metadata.had file with
  | some true =>
      match d.artifact file with
      | some bytes => bytes.length ≤ maxArtifactBytes &&
          metadata.artifactDigest file == some (sha256Bytes bytes)
      | none => false
  | _ => metadata.artifactDigest file == none && (d.artifact file).isNone

/-- The marker of `.env` may be left out only by an import. -/
def Metadata.markersComplete (metadata : Metadata) : Bool :=
  metadata.hadEnv.isSome || metadata.legacySource.isSome

/-- `_load_validated_backup_metadata`. -/
def World.loadMetadata (w : World) (entry : EntryName) : Except Raised Metadata :=
  match w.entries entry with
  | some (.dir { metadata := .valid metadata, .. }) => .ok metadata
  | _ => .error (.integrity entry)

/-- `_validate_backup_integrity` of a directory with that metadata. -/
def Dir.intact (d : Dir) (metadata : Metadata) : Bool :=
  d.controlled && metadata.markersComplete && artifacts.all (d.intactAt metadata)

/-- `_validate_backup_integrity`. -/
def World.validate (w : World) (name : BackupName) : Except Raised Metadata :=
  match w.entries (.backup name) with
  | some (.dir d) =>
      match d.metadata with
      | .valid metadata => if d.intact metadata then .ok metadata else .error (.integrity (.backup name))
      | _ => .error (.integrity (.backup name))
  | _ => .error (.integrity (.backup name))

/-! ## Operations -/

/-- Steps that matter here only by whether they raise. -/
inductive Outside where
  /-- `_ensure_recovery_paths`. -/
  | recoveryPaths
  /-- `staging_dir.chmod(0o700)`, before the `try`. -/
  | chmodStaging
  /-- `_fsync_regular_file` and `_fsync_directory`. -/
  | fsync
  deriving DecidableEq, Repr

/-- The steps the programs are made of. -/
inductive Op where
  | outside (step : Outside)
  /-- The wall clock: an instant, and the offset of the zone. -/
  | now
  /-- `now_iso()` -/
  | nowIso
  /-- `pending_rollback_backup`. -/
  | pending
  /-- Look at a managed file of the runtime, or copy it. -/
  | readFile (file : Managed)
  /-- `_read_all_legacy_backups`. -/
  | readLegacy
  /-- List the backup root, in any order. -/
  | listRoot
  /-- `tempfile.mkdtemp` in the backup root. -/
  | makeStaging
  | writeArtifact (staging : Nat) (file : Managed) (bytes : List UInt8)
  | writeDiagnostic (staging : Nat) (diagnostic : Diagnostic) (bytes : List UInt8)
  | writeMetadata (staging : Nat) (metadata : Metadata)
  | rename (source target : EntryName)
  /-- `shutil.rmtree(staging_dir, ignore_errors=True)` -/
  | removeStaging (staging : Nat)
  /-- `_load_validated_backup_metadata`. -/
  | loadMetadata (entry : EntryName)
  /-- `_validate_backup_integrity`. -/
  | validate (name : BackupName)

/-- What an operation answers. -/
@[reducible] def Op.Res : Op → Type
  | .outside _ => Unit
  | .now => Int × Int
  | .nowIso => List Nat
  | .pending => Option BackupName
  | .readFile _ => Option FileState
  | .readLegacy => List Source
  | .listRoot => List (EntryName × Node)
  | .makeStaging => Nat
  | .writeArtifact .. => Unit
  | .writeDiagnostic .. => Unit
  | .writeMetadata .. => Unit
  | .rename .. => Unit
  | .removeStaging _ => Unit
  | .loadMetadata _ => Metadata
  | .validate _ => Metadata

/-- A computation on the backup root. -/
abbrev Run (α : Type) : Type := Program Op Op.Res Raised α

/-- One operation. -/
abbrev Op.run (op : Op) : Run op.Res := Program.perform op

/-- One step that is only known by whether it raises. -/
abbrev Outside.run (step : Outside) : Run Unit := (Op.outside step).run

/-! ## What an operation does -/

/-- The operations that may go wrong. -/
abbrev Faults : Type := Op → Prop

/-- An answer that is computed from the world, or an exception. -/
def Answered {α : Type} (faulty : Prop) (answer r : Except Raised α) : Prop :=
  r = answer ∨ faulty ∧ ∃ e, r = .error e

/-- The world with the content of a staging directory changed. -/
def World.mapStaging (w : World) (staging : Nat) (f : Dir → Dir) : World :=
  match w.entries (.staging staging) with
  | some (.dir d) => w.setEntry (.staging staging) (some (.dir (f d)))
  | _ => w

/-- A write to a staging directory: done, or given up with the directory filled in part. -/
def Staged (faulty : Prop) (w : World) (staging : Nat) (f : Dir → Dir)
    (r : Except Raised Unit) (w' : World) : Prop :=
  (r = .ok () ∧ w' = w.mapStaging staging f) ∨
    faulty ∧ (∃ e, r = .error e) ∧ ∃ d, w' = w.mapStaging staging fun _ => d

/-- `rename`: an empty directory may be replaced. -/
def World.rename (w : World) (source target : EntryName) : Except Raised Unit × World :=
  match w.entries source with
  | none => (.error .os, w)
  | some node =>
      let moved := (w.setEntry source none).setEntry target (some node)
      match w.entries target with
      | none => (.ok (), moved)
      | some .notDirectory => (.error .os, w)
      | some (.dir d) => if d.isEmpty then (.ok (), moved) else (.error .exists, w)

/-- These are the entries of the root. -/
def World.Lists (w : World) (entries : List (EntryName × Node)) : Prop :=
  ∀ entry node, (entry, node) ∈ entries ↔ w.entries entry = some node

section outcome

variable [SourceIdentity]

/-- What an operation may answer. -/
def Outcome (fault : Faults) : Program.Answers Op Op.Res Raised World := fun w op =>
  match op with
  | .outside step => fun r w' => w' = w ∧ (r = .ok () ∨ fault (.outside step) ∧ ∃ e, r = .error e)
  | .now => fun r w' => w' = w ∧ ∃ t, r = .ok t
  | .nowIso => fun r w' => w' = w ∧ ∃ t, r = .ok t
  | .pending => fun r w' => w' = w ∧ Answered (fault .pending) (.ok w.pending) r
  | .readFile file => fun r w' =>
      w' = w ∧ Answered (fault (.readFile file)) (.ok (w.runtime file)) r
  | .readLegacy => fun r w' =>
      w' = w ∧ Answered (fault .readLegacy) (readAllLegacyBackups w.legacy) r
  | .listRoot => fun r w' =>
      w' = w ∧ ((∃ entries, r = .ok entries ∧ w.Lists entries) ∨ fault .listRoot ∧ ∃ e, r = .error e)
  | .makeStaging => fun r w' =>
      (∃ staging : Nat, r = .ok staging ∧ w.entries (.staging staging) = none ∧
        w' = w.setEntry (.staging staging) (some (.dir emptyDir))) ∨
      fault .makeStaging ∧ (∃ e, r = .error e) ∧ w' = w
  | .writeArtifact staging file bytes => fun r w' =>
      Staged (fault (.writeArtifact staging file bytes)) w staging
        (fun d => { d with artifact := Function.update d.artifact file (some bytes) }) r w'
  | .writeDiagnostic staging diagnostic bytes => fun r w' =>
      Staged (fault (.writeDiagnostic staging diagnostic bytes)) w staging
        (fun d => { d with diagnostics := Function.update d.diagnostics diagnostic (some bytes) })
        r w'
  | .writeMetadata staging metadata => fun r w' =>
      Staged (fault (.writeMetadata staging metadata)) w staging
        (fun d => { d with metadata := .valid metadata }) r w'
  | .rename source target => fun r w' =>
      (r = (w.rename source target).1 ∧ w' = (w.rename source target).2) ∨
      fault (.rename source target) ∧ r = .error .os ∧ w' = w
  | .removeStaging staging => fun r w' => r = .ok () ∧
      (w' = w.setEntry (.staging staging) none ∨
        fault (.removeStaging staging) ∧ ∃ d, w' = w.mapStaging staging fun _ => d)
  | .loadMetadata entry => fun r w' =>
      w' = w ∧ Answered (fault (.loadMetadata entry)) (w.loadMetadata entry) r
  | .validate name => fun r w' => w' = w ∧ Answered (fault (.validate name)) (w.validate name) r

end outcome

/-! ## Names for new backups -/

/-- `try: p except Exception as exc: …` -/
def attempt {α : Type} (p : Run α) : Run (Except Raised α) :=
  tryCatch (do
    let a ← p
    return .ok a) fun e => return .error e

/-- The backups among the entries; anything else there raises. -/
def backupNames (ignored : List EntryName) :
    List (EntryName × Node) → Except Raised (List BackupName)
  | [] => .ok []
  | (entry, node) :: rest =>
      if entry ∈ ignored then backupNames ignored rest
      else
        match entry, node with
        | .backup name, .dir _ => do
            let names ← backupNames ignored rest
            return name :: names
        | .backup name, .notDirectory => .error (.notDirectory (.backup name))
        | entry, _ => .error (.unexpectedEntry entry)

/-- `_next_backup_path`: the original name, or the next suffix of its instant. -/
def nextBackupPath (original : BackupName) (ignored : List EntryName) : Run BackupName := do
  let entries ← Op.listRoot.run
  let names ← Program.ofExcept (backupNames ignored entries)
  return nextBackupName names original

/-- `_backup_path_for_suffix`. -/
def backupPathForSuffix (original : BackupName) (suffix : Nat) : BackupName :=
  { original with suffix := suffix }

/-- Rename the staging directory, with the next suffix as long as the name is taken, `tries` times at
most. -/
def renameStaged (staging : Nat) (original : BackupName) : Nat → BackupName → Run BackupName
  | 0, _ => throw .exists
  | tries + 1, target => do
      match ← attempt (Op.rename (.staging staging) (.backup target)).run with
      | .ok _ => return target
      | .error .exists =>
          renameStaged staging original tries (backupPathForSuffix original (target.suffix + 1))
      | .error e => throw e

/-! ## Backing up the runtime -/

/-- `_sha256_file` of a staged artifact. -/
def sha256File : Option FileState → Except Raised (Option Digest)
  | none => .ok none
  | some file =>
      if file.bytes.length ≤ maxArtifactBytes then .ok (some (sha256Bytes file.bytes))
      else .error .artifactTooLarge

/-- `shutil.copy2` of a managed file to the staging directory, if it is there. -/
def stageFile (staging : Nat) (file : Managed) (found : Option FileState) : Run Unit :=
  match found with
  | none => return ()
  | some state => (Op.writeArtifact staging file state.bytes).run

/-- The backup of the runtime, staged: the copies, then `backup.json`. -/
def stageRuntime (staging : Nat) (createdAt stateManifestPath : List Nat)
    (compose manifest stateManifest env : Option FileState) : Run Unit := do
  stageFile staging .compose compose
  stageFile staging .env env
  stageFile staging .manifest manifest
  stageFile staging .stateManifest stateManifest
  let manifestDigest ← Program.ofExcept (sha256File manifest)
  let envDigest ← Program.ofExcept (sha256File env)
  let composeDigest ← Program.ofExcept (sha256File compose)
  let stateManifestDigest ← Program.ofExcept (sha256File stateManifest)
  (Op.writeMetadata staging {
    createdAt := createdAt
    hadCompose := compose.isSome
    hadManifest := manifest.isSome
    hadStateManifest := stateManifest.isSome
    hadEnv := some env.isSome
    envGid := env.map FileState.gid
    envMode := env.map FileState.mode
    envUid := env.map FileState.uid
    stateManifestPath := stateManifestPath
    artifactDigest := fun
      | .compose => composeDigest
      | .manifest => manifestDigest
      | .stateManifest => stateManifestDigest
      | .env => envDigest
    legacySource := none }).run
  Outside.fsync.run

/-- `backup_agent_runtime_state`, with so many tries to find a free name; `stateManifestPath` is the
text of `state_manifest_path(state_root, slot)`. -/
def backupAgentRuntimeState (stateManifestPath : List Nat) (tries : Nat) : Run BackupName := do
  Outside.recoveryPaths.run
  match ← Op.pending.run with
  | some pending => throw (.rollbackPending pending)
  | none =>
    let (instant, offset) ← Op.now.run
    let original : BackupName := { instant := instant, offset := offset, suffix := 1 }
    let target ← nextBackupPath original []
    let env ← (Op.readFile .env).run
    let createdAt ← Op.nowIso.run
    let compose ← (Op.readFile .compose).run
    let manifest ← (Op.readFile .manifest).run
    let stateManifest ← (Op.readFile .stateManifest).run
    let staging ← Op.makeStaging.run
    Outside.chmodStaging.run
    tryCatch
      (do
        stageRuntime staging createdAt stateManifestPath compose manifest stateManifest env
        let published ← renameStaged staging original tries target
        Outside.fsync.run
        return published)
      fun e => do
        (Op.removeStaging staging).run
        throw e

/-- The newest of the backups by `_backup_sort_key`; every entry must be one. -/
def newestBackup : List (EntryName × Node) → Except Raised (Option BackupName)
  | [] => .ok none
  | (.backup name, .dir d) :: rest =>
      match d.metadata with
      | .absent => .error (.metadataMissing (.backup name))
      | _ => do
          match ← newestBackup rest with
          | none => return some name
          | some newest => return some (if newest.later name then newest else name)
  | (.backup name, .notDirectory) :: _ => .error (.notDirectory (.backup name))
  | (entry, _) :: _ => .error (.unexpectedEntry entry)

/-- `latest_backup`. -/
def latestBackup : Run (Option BackupName) := do
  let entries ← Op.listRoot.run
  Program.ofExcept (newestBackup entries)

/-! ## Importing legacy backups -/

/-- The metadata of an imported backup. -/
def importedMetadata (stateManifestPath : List Nat) (source : Source) : Metadata where
  createdAt := source.metadata.createdAt
  hadCompose := source.metadata.hadCompose
  hadManifest := source.metadata.hadManifest
  hadStateManifest := source.metadata.stateManifest.elim false Prod.fst
  hadEnv := source.metadata.env.map LegacyEnv.hadEnv
  envGid := source.metadata.env.bind LegacyEnv.gid
  envMode := source.metadata.env.bind LegacyEnv.mode
  envUid := source.metadata.env.bind LegacyEnv.uid
  stateManifestPath := source.metadata.stateManifest.elim stateManifestPath Prod.snd
  artifactDigest := source.artifactDigest
  legacySource := some {
    backupJsonDigest := source.backupJsonDigest
    backupName := source.backupName
    sourceIdentity := source.sourceIdentity }

/-- The imported backup, staged: the artifacts, the diagnostics, then `backup.json`. -/
def stageSource (staging : Nat) (stateManifestPath : List Nat) (source : Source) : Run Unit := do
  let _ ← Program.forEach
    (fun file =>
      match source.artifact file with
      | none => return ()
      | some bytes => (Op.writeArtifact staging file bytes).run) artifacts
  let _ ← Program.forEach
    (fun diagnostic =>
      match source.diagnostics diagnostic with
      | none => return ()
      | some bytes => (Op.writeDiagnostic staging diagnostic bytes).run) Diagnostic.all
  (Op.writeMetadata staging (importedMetadata stateManifestPath source)).run
  Outside.fsync.run

/-- Check a directory that was just renamed, and rename it back if the check raises. -/
def confirmOrRollBack (target back : EntryName) (check : Run Unit) : Run Unit :=
  tryCatch check fun e => do
    tryCatch
      (do
        (Op.rename target back).run
        Outside.fsync.run)
      fun _ => throw .rollbackFailed
    throw e

/-- `_publish_legacy_backup`, with so many tries to find a free name. -/
def publishLegacyBackup (stateManifestPath : List Nat) (tries : Nat) (source : Source) :
    Run BackupName := do
  let target ← nextBackupPath source.backupName []
  let staging ← Op.makeStaging.run
  Outside.chmodStaging.run
  tryCatch
    (do
      stageSource staging stateManifestPath source
      let published ← renameStaged staging source.backupName tries target
      confirmOrRollBack (.backup published) (.staging staging) do
        Outside.fsync.run
        let _ ← (Op.validate published).run
        return ()
      return published)
    fun e => do
      (Op.removeStaging staging).run
      throw e

/-- The residue of the old publisher among the entries; anything else that is no backup raises. -/
def interruptedNames : List (EntryName × Node) → Except Raised (List (BackupName × Nat))
  | [] => .ok []
  | (.backup _, _) :: rest => interruptedNames rest
  | (.nested source retry, node) :: rest =>
      match node with
      | .dir d =>
          if d.controlled then do
            let names ← interruptedNames rest
            return (source, retry) :: names
          else .error (.integrity (.nested source retry))
      | .notDirectory => .error (.notDirectory (.nested source retry))
  | (entry, _) :: _ => .error (.unexpectedEntry entry)

/-- The source of an interrupted publication is the one that its name says. -/
def checkSource (entry : EntryName) (source : BackupName) (metadata : Metadata) :
    Except Raised Unit :=
  if metadata.legacySource.map LegacySource.backupName = some source then .ok ()
  else .error (.sourceMismatch entry)

/-- Give one interrupted publication a canonical name. -/
def recoverInterrupted (ignored : List EntryName) (source : BackupName) (retry : Nat) :
    Run BackupName := do
  let entry := EntryName.nested source retry
  let candidate ← (Op.loadMetadata entry).run
  Program.ofExcept (checkSource entry source candidate)
  let target ← nextBackupPath { source with suffix := 1 } ignored
  (Op.rename entry (.backup target)).run
  Outside.fsync.run
  confirmOrRollBack (.backup target) entry do
    let metadata ← (Op.validate target).run
    Program.ofExcept (checkSource (.backup target) source metadata)
  return target

/-- `_recover_interrupted_legacy_publications`. -/
def recoverInterruptedLegacyPublications : Run (List BackupName) := do
  let entries ← Op.listRoot.run
  let interrupted ← Program.ofExcept (interruptedNames entries)
  Program.forEach
    (fun item => recoverInterrupted (interrupted.map fun item => .nested item.1 item.2) item.1 item.2)
    interrupted

/-- The imports found so far, by the name of their source. -/
abbrev Imports : Type := List (BackupName × Digest)

/-- Add the import that a directory holds, if it holds one. -/
def collectImport (found : Imports) (metadata : Metadata) : Except Raised Imports :=
  match metadata.legacySource with
  | none => .ok found
  | some legacy =>
      match found.lookup legacy.backupName with
      | none => .ok ((legacy.backupName, legacy.sourceIdentity) :: found)
      | some identity =>
          if identity = legacy.sourceIdentity then .ok found
          else .error (.conflictingIdentity legacy.backupName)

/-- Validate every entry and collect the imports. -/
def collectImports : Imports → List (EntryName × Node) → Run Imports
  | found, [] => return found
  | found, (.backup name, _) :: rest => do
      let metadata ← (Op.validate name).run
      let found ← Program.ofExcept (collectImport found metadata)
      collectImports found rest
  | _, (entry, _) :: _ => throw (.unexpectedEntry entry)

/-- `_existing_legacy_imports`. -/
def existingLegacyImports : Run Imports := do
  let _ ← recoverInterruptedLegacyPublications
  let entries ← Op.listRoot.run
  collectImports [] entries

/-- Import every source that is not there yet. -/
def importSources (stateManifestPath : List Nat) (tries : Nat) :
    Imports → List Source → Run (List BackupName)
  | _, [] => return []
  | existing, source :: rest =>
      match existing.lookup source.backupName with
      | some identity =>
          if identity = source.sourceIdentity then
            importSources stateManifestPath tries existing rest
          else throw (.changedAfterImport source.backupName)
      | none => do
          let published ← publishLegacyBackup stateManifestPath tries source
          let imported ← importSources stateManifestPath tries
            ((source.backupName, source.sourceIdentity) :: existing) rest
          return published :: imported

/-- `import_legacy_agent_runtime_backups`. -/
def importLegacyAgentRuntimeBackups (stateManifestPath : List Nat) (tries : Nat) :
    Run (List BackupName) := do
  let sources ← Op.readLegacy.run
  if sources.isEmpty then
    return []
  else
    Outside.recoveryPaths.run
    let existing ← existingLegacyImports
    importSources stateManifestPath tries existing sources

end AgentRuntimeOps.BackupRoot
