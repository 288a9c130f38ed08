import AgentRuntimeOps.Lib.JsonRoundTrip
import AgentRuntimeOps.Lib.Sha256
import AgentRuntimeOps.Runtime.Backup

/-!
# Legacy backups

`runtime_backup.py`: what `_read_all_legacy_backups` makes of the old backup root under a slot's
home.  `backup.json` has three generations; every file is read whole and its digest taken.

A legacy file is `refused` where it is not a regular file with one link that root owns and others
cannot write, or changes while it is read.
-/

namespace AgentRuntimeOps.BackupRoot

open AgentRuntimeOps.Lib
open AgentRuntimeOps.Runtime (Managed BackupName Digest maxArtifactBytes)

/-! ## Names -/

/-- The entries of a backup root, by their names. -/
inductive EntryName where
  /-- `_BACKUP_NAME`: a timestamp, with a suffix from 2 on or none. -/
  | backup (name : BackupName)
  /-- `_INTERRUPTED_LEGACY_PUBLICATION_NAME`: the name of a source with a suffix, and a second
  suffix. -/
  | nested (source : BackupName) (retry : Nat)
  /-- The `.staging-` and `.legacy-import-` directories of `tempfile.mkdtemp`. -/
  | staging (number : Nat)
  /-- Any other name. -/
  | other (text : String)
  deriving DecidableEq, Repr

/-- `_BACKUP_NAME.fullmatch(name)`. -/
def EntryName.isBackup : EntryName → Bool
  | backup _ => true
  | _ => false

/-- `_LEGACY_DIAGNOSTIC_FILES`. -/
inductive Diagnostic where
  | error
  | inspect
  | logs
  | lookup
  | ports
  | top
  deriving DecidableEq, Repr

/-- In the order of their names. -/
def Diagnostic.all : List Diagnostic := [.error, .inspect, .logs, .lookup, .ports, .top]

lemma Diagnostic.mem_all (d : Diagnostic) : d ∈ Diagnostic.all := by
  cases d <;> simp [Diagnostic.all]

/-- The artifacts of a backup, `.env` last. -/
def artifacts : List Managed := [.manifest, .compose, .stateManifest, .env]

lemma mem_artifacts (file : Managed) : file ∈ artifacts := by
  cases file <;> simp [artifacts]

/-! ## Exceptions -/

/-- What the functions raise. -/
inductive Raised where
  /-- An `OSError`. -/
  | os
  /-- `EEXIST` or `ENOTEMPTY` of a rename. -/
  | exists
  /-- The exception of a step that is only known by whether it raises. -/
  | outside
  /-- `unexpected managed backup entry: {item}` -/
  | unexpectedEntry (entry : EntryName)
  /-- `managed backup entry must be a directory: {item}` and the same for interrupted
  publications -/
  | notDirectory (entry : EntryName)
  /-- `managed backup entry must contain regular backup metadata: {item}` -/
  | metadataMissing (entry : EntryName)
  /-- A check of `_validate_backup_dir` or `_validate_backup_integrity` fails. -/
  | integrity (entry : EntryName)
  /-- `rollback transaction must be completed before a new apply: {name}` -/
  | rollbackPending (name : BackupName)
  /-- `managed artifact is too large: {path}` -/
  | artifactTooLarge
  /-- `interrupted legacy publication source identity mismatch: {item}` -/
  | sourceMismatch (entry : EntryName)
  /-- `interrupted legacy publication recovery rollback failed: {target} -> {item}: {error}` or
  `legacy backup publication rollback failed: {backup_dir} -> {staging_dir}: {error}` -/
  | rollbackFailed
  /-- `conflicting imported legacy backup identity: {backup_name}` -/
  | conflictingIdentity (name : BackupName)
  /-- `legacy backup changed after import: {source_name}` -/
  | changedAfterImport (name : BackupName)
  /-- `no agent-runtime backup` -/
  | noBackup
  /-- `legacy backup root contains unexpected entries` or `legacy backup root exceeds entry
  limit` -/
  | legacyEntries
  /-- A legacy directory or file cannot be opened safely, or is too large. -/
  | legacyFile
  /-- `legacy backup metadata is missing`, `is invalid` or one of its fields is. -/
  | legacyMetadata
  /-- `legacy backup artifact marker mismatch: {path}` -/
  | legacyMarker
  /-- `legacy backup exceeds total size limit` or `legacy backup root exceeds total size limit` -/
  | legacySize
  deriving DecidableEq, Repr

/-! ## Metadata of a legacy backup -/

/-- `sha256:` and the digest. -/
def sha256Bytes (bytes : List UInt8) : Digest := "sha256:".toList ++ hexdigest bytes

/-- The owner and the mode that a backup records for `.env`, with its presence marker. -/
structure LegacyEnv where
  hadEnv : Bool
  gid : Option Nat
  mode : Option Nat
  uid : Option Nat
  deriving DecidableEq, Repr

/-- `backup.json` of a legacy backup.  The first generation has no state manifest, only the third
has an `.env`. -/
structure LegacyMetadata where
  createdAt : List Nat
  hadCompose : Bool
  hadManifest : Bool
  /-- `had_state_manifest` and `state_manifest_path`. -/
  stateManifest : Option (Bool × List Nat)
  env : Option LegacyEnv
  deriving DecidableEq, Repr

/-- The presence marker of an artifact; only that of `.env` may be left out. -/
def LegacyMetadata.had (metadata : LegacyMetadata) : Managed → Option Bool
  | .compose => some metadata.hadCompose
  | .manifest => some metadata.hadManifest
  | .stateManifest => some (metadata.stateManifest.elim false Prod.fst)
  | .env => metadata.env.map LegacyEnv.hadEnv

/-- The fields of a JSON object, as they are scanned. -/
abbrev Fields : Type := List (List Nat × Scanned)

/-- A field of an object. -/
def Fields.get? (fields : Fields) (key : String) : Option Scanned :=
  fields.lookup (key.toList.map Char.toNat)

/-- The names of the fields are exactly these; no name is there twice. -/
def Fields.hasExactly (fields : Fields) (keys : List String) : Bool :=
  fields.length == keys.length && keys.all fun key => (fields.get? key).isSome

/-- `_LEGACY_BACKUP_V0_METADATA_KEYS`. -/
def legacyBackupV0MetadataKeys : List String := ["created_at", "had_compose", "had_manifest"]

/-- `_LEGACY_BACKUP_METADATA_KEYS`. -/
def legacyBackupMetadataKeys : List String :=
  legacyBackupV0MetadataKeys ++ ["had_state_manifest", "state_manifest_path"]

/-- `_LEGACY_BACKUP_ENV_METADATA_KEYS`. -/
def legacyBackupEnvMetadataKeys : List String := ["env_gid", "env_mode", "env_uid", "had_env"]

/-- `legacy backup {marker} marker must be boolean`. -/
def Fields.boolean (fields : Fields) (key : String) : Except Raised Bool :=
  match fields.get? key with
  | some (.bool b) => .ok b
  | _ => .error .legacyMetadata

/-- A field that must be a text. -/
def Fields.text (fields : Fields) (key : String) : Except Raised (List Nat) :=
  match fields.get? key with
  | some (.str codes) => .ok codes
  | _ => .error .legacyMetadata

/-- `env_gid`, `env_mode` or `env_uid`: a number where there was an `.env`, else null. -/
def Fields.identity (fields : Fields) (hadEnv : Bool) (key : String) :
    Except Raised (Option Nat) :=
  match hadEnv, fields.get? key with
  | true, some (.int i) => if 0 ≤ i then .ok (some i.toNat) else .error .legacyMetadata
  | false, some .null => .ok none
  | _, _ => .error .legacyMetadata

/-- The `.env` fields of the third generation. -/
def Fields.env (fields : Fields) : Except Raised LegacyEnv := do
  let hadEnv ← fields.boolean "had_env"
  let gid ← fields.identity hadEnv "env_gid"
  let mode ← fields.identity hadEnv "env_mode"
  let uid ← fields.identity hadEnv "env_uid"
  if mode.any fun mode => 0o777 < mode then
    throw .legacyMetadata
  return { hadEnv := hadEnv, gid := gid, mode := mode, uid := uid }

/-- The fields of one of the three generations. -/
def Fields.legacyMetadata (fields : Fields) : Except Raised LegacyMetadata := do
  let first := fields.hasExactly legacyBackupV0MetadataKeys
  let third := fields.hasExactly (legacyBackupMetadataKeys ++ legacyBackupEnvMetadataKeys)
  if !(first || fields.hasExactly legacyBackupMetadataKeys || third) then
    throw .legacyMetadata
  let hadManifest ← fields.boolean "had_manifest"
  let hadCompose ← fields.boolean "had_compose"
  let createdAt ← fields.text "created_at"
  if createdAt = [] then
    throw .legacyMetadata
  let stateManifest ←
    if first then pure none
    else do
      let had ← fields.boolean "had_state_manifest"
      let path ← fields.text "state_manifest_path"
      pure (some (had, path))
  let env ← if third then some <$> fields.env else pure none
  return {
    createdAt := createdAt
    hadCompose := hadCompose
    hadManifest := hadManifest
    stateManifest := stateManifest
    env := env }

/-- The default of `sys.getrecursionlimit()`; the metadata that is accepted opens one container. -/
def recursionLimit : Nat := 1000

/-- `_strict_legacy_metadata`. -/
def strictLegacyMetadata (bytes : List UInt8) : Except Raised LegacyMetadata :=
  match decodeUtf8? bytes with
  | none => .error .legacyMetadata
  | some text =>
      match scan true recursionLimit text with
      | .ok (.obj fields) => Fields.legacyMetadata fields
      | _ => .error .legacyMetadata

/-! ## Reading a legacy backup -/

/-- A file of a legacy backup, as `_read_legacy_regular_file` finds it. -/
inductive LegacyFile where
  | refused
  | regular (bytes : List UInt8)
  deriving DecidableEq, Repr

/-- The directory `failed-container`. -/
structure LegacyDiagnostics where
  refused : Bool
  /-- It has an entry that is none of the diagnostic files. -/
  unexpected : Bool
  file : Diagnostic → Option LegacyFile

/-- A directory of the legacy root. -/
structure LegacyDir where
  refused : Bool
  /-- It has an entry that a backup has not. -/
  unexpected : Bool
  backupJson : Option LegacyFile
  artifact : Managed → Option LegacyFile
  diagnostics : Option LegacyDiagnostics

/-- The legacy root, with its entries in the order of their names; none where it is absent. -/
structure LegacyRoot where
  refused : Bool
  entries : List (EntryName × LegacyDir)

/-- `_read_legacy_regular_file`. -/
def readLegacyRegularFile (maximumBytes : Nat) : LegacyFile → Except Raised (List UInt8)
  | .refused => .error .legacyFile
  | .regular bytes => if bytes.length ≤ maximumBytes then .ok bytes else .error .legacyFile

/-- What `_read_legacy_backup_directory` returns. -/
structure Source where
  backupName : BackupName
  artifact : Managed → Option (List UInt8)
  backupJsonDigest : Digest
  diagnostics : Diagnostic → Option (List UInt8)
  metadata : LegacyMetadata
  payloadBytes : Nat
  sourceIdentity : Digest

/-- `artifact_sha256` of a source. -/
def Source.artifactDigest (source : Source) (file : Managed) : Option Digest :=
  (source.artifact file).map sha256Bytes

/-- `_legacy_source_identity`: SHA-256 of a JSON text of the name, the digest of `backup.json`, the
digests of the artifacts and those of the diagnostics. -/
class SourceIdentity where
  legacySourceIdentity : BackupName → Digest → (Managed → Option Digest) →
    (Diagnostic → Option Digest) → Digest

/-- Read the files that a backup says it has; the marker of each must agree with the directory. -/
def readArtifacts (metadata : LegacyMetadata) (dir : LegacyDir) :
    List Managed → Except Raised (List (Managed × Option (List UInt8)))
  | [] => .ok []
  | file :: files => do
      let present := metadata.had file == some true
      if present ≠ (dir.artifact file).isSome then
        throw .legacyMarker
      let value ←
        match dir.artifact file with
        | none => pure none
        | some found => some <$> readLegacyRegularFile maxArtifactBytes found
      let rest ← readArtifacts metadata dir files
      return (file, value) :: rest

/-- Read the diagnostic files that are there. -/
def readDiagnostics (diagnostics : LegacyDiagnostics) :
    List Diagnostic → Except Raised (List (Diagnostic × List UInt8))
  | [] => .ok []
  | name :: names =>
      match diagnostics.file name with
      | none => readDiagnostics diagnostics names
      | some found => do
          let value ← readLegacyRegularFile maxArtifactBytes found
          let rest ← readDiagnostics diagnostics names
          return (name, value) :: rest

/-- The diagnostic files of a backup. -/
def readFailedContainer : Option LegacyDiagnostics →
    Except Raised (List (Diagnostic × List UInt8))
  | none => .ok []
  | some diagnostics =>
      if diagnostics.refused then .error .legacyFile
      else if diagnostics.unexpected then .error .legacyEntries
      else readDiagnostics diagnostics Diagnostic.all

/-- `_LEGACY_BACKUP_MAX_TOTAL_BYTES`. -/
def maxTotalBytes : Nat := 32 * 1024 * 1024

/-- `_LEGACY_BACKUP_MAX_ROOT_BYTES`. -/
def maxRootBytes : Nat := 128 * 1024 * 1024

/-- `_LEGACY_BACKUP_MAX_ENTRIES`. -/
def maxEntries : Nat := 256

section reading

variable [SourceIdentity]

/-- `_read_legacy_backup_directory`. -/
def readLegacyBackupDirectory (name : BackupName) (dir : LegacyDir) : Except Raised Source := do
  if dir.refused then
    throw .legacyFile
  if dir.unexpected then
    throw .legacyEntries
  match dir.backupJson with
  | none => throw .legacyMetadata
  | some file =>
      let metadataBytes ← readLegacyRegularFile (64 * 1024) file
      let metadata ← strictLegacyMetadata metadataBytes
      let artifactBytes ← readArtifacts metadata dir artifacts
      let diagnosticBytes ← readFailedContainer dir.diagnostics
      let payloadBytes := metadataBytes.length +
        (artifactBytes.map fun item => (item.2.getD []).length).sum +
        (diagnosticBytes.map fun item => item.2.length).sum
      if maxTotalBytes < payloadBytes then
        throw .legacySize
      let artifact := fun file => (artifactBytes.lookup file).join
      let diagnostics := fun diagnostic => diagnosticBytes.lookup diagnostic
      return {
        backupName := name
        artifact := artifact
        backupJsonDigest := sha256Bytes metadataBytes
        diagnostics := diagnostics
        metadata := metadata
        payloadBytes := payloadBytes
        sourceIdentity := SourceIdentity.legacySourceIdentity name (sha256Bytes metadataBytes)
          (fun file => (artifact file).map sha256Bytes)
          (fun diagnostic => (diagnostics diagnostic).map sha256Bytes) }

/-- The sources of the entries, with the bytes that were read before. -/
def readLegacyEntries (totalBytes : Nat) :
    List (EntryName × LegacyDir) → Except Raised (List Source)
  | [] => .ok []
  | (.backup name, dir) :: rest => do
      let source ← readLegacyBackupDirectory name dir
      let totalBytes := totalBytes + source.payloadBytes
      if maxRootBytes < totalBytes then
        throw .legacySize
      let sources ← readLegacyEntries totalBytes rest
      return source :: sources
  | _ :: _ => .error .legacyEntries

/-- `_read_all_legacy_backups`. -/
def readAllLegacyBackups (root : LegacyRoot) : Except Raised (List Source) :=
  if root.refused then .error .legacyFile
  else if maxEntries < root.entries.length then .error .legacyEntries
  else if root.entries.any fun entry => !entry.1.isBackup then .error .legacyEntries
  else readLegacyEntries 0 root.entries

end reading

end AgentRuntimeOps.BackupRoot
