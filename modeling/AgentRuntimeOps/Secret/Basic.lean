import AgentRuntimeOps.Lib.Crash
import AgentRuntimeOps.Lib.Sha256
import AgentRuntimeOps.Runtime.Basic

/-!
# Runtime secrets

`commands/runtime_secret.py`: `runtime-secret set` writes the secret file of a slot and, for an
`API_SERVER_KEY`, the `.env` of its runtime, under a lock directory that holds copies of the files
and a manifest; `runtime-secret recover` puts the copies back.  For some profiles the two files are
one.

The commands are `Program`s over the operations `Op`.  The steps of the file system do what they
are asked; what other modules do, the recreation of the runtime and the checks of its containers
may raise or fail where `fault` admits it.  Parent directories and the modes of the files in the
lock directory are left out: nothing reads them here.
-/

namespace AgentRuntimeOps.Secret

open AgentRuntimeOps.Lib
open AgentRuntimeOps.Runtime (FileState chownMode)

/-! ## Data -/

/-- The files of a transaction, in the order of `transaction_paths`. -/
inductive Role where
  | secret
  | env
  deriving DecidableEq, Repr

/-- What the manifest keeps of a file that was there. -/
structure Saved where
  uid : Nat
  gid : Nat
  mode : Nat
  sha256 : List Char
  deriving DecidableEq, Repr

/-- `_SecretFileSnapshot`; the copy is in `file-0.bak` or `file-1.bak`, by the role. -/
structure Snapshot where
  role : Role
  path : String
  saved : Option Saved
  deriving DecidableEq, Repr

/-- `manifest.json`: written in part, or whole. -/
inductive ManifestFile where
  | broken
  | complete (items : List Snapshot)
  deriving DecidableEq, Repr

/-- The lock directory `<slot>.lock`. -/
structure LockDir where
  backups : Role → Option (List UInt8)
  manifest : Option ManifestFile

/-- The files of the host, and the lock directory of the slot. -/
structure World where
  files : String → Option FileState
  lock : Option LockDir

/-- What the functions raise. -/
inductive Raised where
  /-- The exception of a step that is only known by whether it raises. -/
  | outside (detail : String)
  /-- `FileExistsError` of the lock directory. -/
  | locked
  /-- `manifest.json` cannot be read. -/
  | manifestUnreadable
  /-- `rollback backup verification failed: {path}` -/
  | backupVerification (path : String)
  /-- `rollback restore verification failed: {path}` -/
  | restoreVerification (path : String)
  deriving DecidableEq, Repr

/-! ## Operations -/

/-- Steps of other modules, which matter here only by whether they raise. -/
inductive Outside where
  /-- Load the target, its profile and the values. -/
  | admission
  /-- `_assert_secret_path_safe` and `_secret_owner_ids`. -/
  | secretPathSafe
  /-- The descriptor is that of a regular file with one link. -/
  | regularUnshared
  /-- `slot_uid_gid`. -/
  | slotIds
  /-- `_append_action_log`. -/
  | actionLog
  deriving DecidableEq, Repr

/-- The entries of the lock directory. -/
inductive Entry where
  | backup (role : Role)
  | manifest
  deriving DecidableEq, Repr

/-- Steps of the file system. -/
inductive Effect where
  /-- Create a copy in the lock directory, or write it. -/
  | writeBackup (role : Role) (bytes : List UInt8)
  /-- Create `manifest.json`. -/
  | createManifest
  /-- Write `manifest.json`. -/
  | fillManifest (items : List Snapshot)
  /-- Unlink an entry of the lock directory. -/
  | unlinkEntry (entry : Entry)
  /-- Remove the empty lock directory. -/
  | removeLock
  /-- Open a file and create it, empty and root's, if it is not there. -/
  | createFile (path : String) (mode : Nat)
  /-- Make a file empty. -/
  | truncateFile (path : String)
  /-- Write a file. -/
  | writeFile (path : String) (bytes : List UInt8)
  | chmodFile (path : String) (mode : Nat)
  | chownFile (path : String) (uid gid : Nat)
  /-- `os.replace` of a temporary file over a file. -/
  | replaceFile (path : String) (file : FileState)
  | unlinkFile (path : String)

/-- The steps the programs are made of. -/
inductive Op where
  | outside (step : Outside)
  | effect (effect : Effect)
  /-- `root.mkdir`. -/
  | makeLock
  /-- Look at a file, and raise if it is not a regular one. -/
  | readFile (path : String)
  | readManifest
  | readBackup (role : Role)
  /-- List the lock directory, in any order. -/
  | listLock
  /-- Recreate the runtime; the answer is the return code.  A recreation reads the `.env`, and one
  that fails puts back the copy of it that it took. -/
  | recreate
  /-- A phase of the checks; the answer says whether it passed. -/
  | phase

/-- What an operation answers. -/
@[reducible] def Op.Res : Op → Type
  | .outside _ => Unit
  | .effect _ => Unit
  | .makeLock => Unit
  | .readFile _ => Option FileState
  | .readManifest => List Snapshot
  | .readBackup _ => Option (List UInt8)
  | .listLock => List Entry
  | .recreate => Nat
  | .phase => Bool

/-- A computation on the host. -/
abbrev Run (α : Type) : Type := Program Op Op.Res Raised α

/-- One operation. -/
abbrev Op.run (op : Op) : Run op.Res := Program.perform op

/-- One step of the file system. -/
abbrev Effect.run (effect : Effect) : Run Unit := (Op.effect effect).run

/-- One step of another module. -/
abbrev Outside.run (step : Outside) : Run Unit := (Op.outside step).run

/-! ## What an operation does -/

namespace World

/-- The world with one file replaced, changed or removed. -/
def setFile (w : World) (path : String) (content : Option FileState) : World :=
  { w with files := Function.update w.files path content }

/-- The world with one file changed, if it is there. -/
def mapFile (w : World) (path : String) (f : FileState → FileState) : World :=
  w.setFile path ((w.files path).map f)

/-- The world with its lock directory changed, if it is there. -/
def mapLock (w : World) (f : LockDir → LockDir) : World := { w with lock := w.lock.map f }

/-- `_load_secret_transaction`. -/
def loadManifest (w : World) : Except Raised (List Snapshot) :=
  match w.lock with
  | some { manifest := some (.complete items), .. } => .ok items
  | _ => .error .manifestUnreadable

/-- A copy in the lock directory. -/
def backup? (w : World) (role : Role) : Option (List UInt8) := w.lock.bind (LockDir.backups · role)

end World

/-- An entry of the lock directory is there. -/
def LockDir.has (lock : LockDir) : Entry → Bool
  | .backup role => (lock.backups role).isSome
  | .manifest => lock.manifest.isSome

/-- The lock directory without an entry. -/
def LockDir.remove (lock : LockDir) : Entry → LockDir
  | .backup role => { lock with backups := Function.update lock.backups role none }
  | .manifest => { lock with manifest := none }

/-- What a step of the file system does. -/
def Effect.apply : Effect → World → World
  | .writeBackup role bytes, w => w.mapLock fun lock =>
      { lock with backups := Function.update lock.backups role (some bytes) }
  | .createManifest, w => w.mapLock fun lock => { lock with manifest := some .broken }
  | .fillManifest items, w => w.mapLock fun lock => { lock with manifest := some (.complete items) }
  | .unlinkEntry entry, w => w.mapLock (LockDir.remove · entry)
  | .removeLock, w => { w with lock := none }
  | .createFile path mode, w =>
      match w.files path with
      | none => w.setFile path (some { bytes := [], mode := mode, uid := 0, gid := 0 })
      | some _ => w
  | .truncateFile path, w => w.mapFile path fun f => { f with bytes := [] }
  | .writeFile path bytes, w => w.mapFile path fun f => { f with bytes := bytes }
  | .chmodFile path mode, w => w.mapFile path fun f => { f with mode := mode }
  | .chownFile path uid gid, w =>
      w.mapFile path fun f => { f with mode := chownMode f.mode, uid := uid, gid := gid }
  | .replaceFile path file, w => w.setFile path (some file)
  | .unlinkFile path, w => w.setFile path none

/-- The operations that may go wrong. -/
abbrev Faults : Type := Op → Prop

/-- What an operation may answer. -/
def Outcome (fault : Faults) : Program.Answers Op Op.Res Raised World := fun w op =>
  match op with
  | .outside step => fun r w' => w' = w ∧ (r = .ok () ∨ fault (.outside step))
  | .effect e => fun r w' => r = .ok () ∧ w' = e.apply w
  | .makeLock => fun r w' =>
      match w.lock with
      | none => r = .ok () ∧ w' = { w with lock := some ⟨fun _ => none, none⟩ }
      | some _ => r = .error .locked ∧ w' = w
  | .readFile path => fun r w' =>
      w' = w ∧ (r = .ok (w.files path) ∨ fault (.readFile path) ∧ ∃ e, r = .error e)
  | .readManifest => fun r w' => w' = w ∧ r = w.loadManifest
  | .readBackup role => fun r w' => w' = w ∧ r = .ok (w.backup? role)
  | .listLock => fun r w' =>
      w' = w ∧ ∃ entries : List Entry, r = .ok entries ∧
        ∀ entry, entry ∈ entries ↔ ∃ lock, w.lock = some lock ∧ lock.has entry = true
  | .recreate => fun r w' => w' = w ∧ (r = .ok 0 ∨ fault .recreate)
  | .phase => fun r w' => w' = w ∧ (r = .ok true ∨ fault .phase)

/-! ## Transactions -/

/-- Take the copy of one file. -/
def snapshot (role : Role) (path : String) : Run Snapshot := do
  match ← (Op.readFile path).run with
  | none => return { role := role, path := path, saved := none }
  | some file =>
      (Effect.writeBackup role []).run
      (Effect.writeBackup role file.bytes).run
      return {
        role := role
        path := path
        saved := some {
          uid := file.uid
          gid := file.gid
          mode := file.mode
          sha256 := hexdigest file.bytes } }

/-- `shutil.rmtree` of the lock directory. -/
def removeTree : Run Unit := do
  let entries ← Op.listLock.run
  let _ ← Program.forEach (fun entry => (Effect.unlinkEntry entry).run) entries
  Effect.removeLock.run

/-- `_begin_secret_transaction`. -/
def beginSecretTransaction (paths : List (Role × String)) : Run (List Snapshot) := do
  Op.makeLock.run
  tryCatch
    (do
      let snapshots ← Program.forEach (fun item => snapshot item.1 item.2) paths
      Effect.createManifest.run
      (Effect.fillManifest snapshots).run
      return snapshots)
    fun e => do
      removeTree
      throw e

/-- `shutil.copy2` of a copy to its file, and the owner and the mode that it had. -/
def restoreCopy (path : String) (bytes : List UInt8) (saved : Saved) : Run Unit := do
  (Effect.createFile path 0o644).run
  (Effect.truncateFile path).run
  (Effect.writeFile path bytes).run
  (Effect.chmodFile path 0o600).run
  (Effect.chownFile path saved.uid saved.gid).run
  (Effect.chmodFile path saved.mode).run

/-- Put one file back. -/
def restoreItem (item : Snapshot) : Run Unit :=
  match item.saved with
  | none => do
      match ← (Op.readFile item.path).run with
      | none => return ()
      | some _ => (Effect.unlinkFile item.path).run
  | some saved => do
      match ← (Op.readBackup item.role).run with
      | none => throw (.backupVerification item.path)
      | some bytes =>
          if hexdigest bytes ≠ saved.sha256 then
            throw (.backupVerification item.path)
          restoreCopy item.path bytes saved
          let found ← (Op.readFile item.path).run
          if found.map (fun file => hexdigest file.bytes) ≠ some saved.sha256 then
            throw (.restoreVerification item.path)

/-- `_restore_secret_transaction`. -/
def restoreSecretTransaction (items : List Snapshot) : Run Bool :=
  tryCatch
    (do
      let _ ← Program.forEach restoreItem items
      return true)
    fun _ => return false

/-! ## The commands -/

/-- The arguments of `runtime-secret set`, and what the profile and the host make of them. -/
structure SecretRequest where
  secretPath : String
  envPath : String
  /-- The values have an `API_SERVER_KEY`. -/
  syncsEnv : Bool
  secretUid : Nat
  secretGid : Nat
  envUid : Nat
  envGid : Nat
  /-- `render_upserted_secret_env` of the text that is there. -/
  renderSecret : List UInt8 → List UInt8
  /-- The lines of the runtime's `.env` with the new key. -/
  renderEnv : List UInt8 → List UInt8
  noRestart : Bool
  /-- The phases of the checks that are asked for. -/
  phases : Nat

/-- `transaction_paths`. -/
def SecretRequest.paths (request : SecretRequest) : List (Role × String) :=
  (.secret, request.secretPath) ::
    if request.syncsEnv then [(.env, request.envPath)] else []

/-- The text of a file, empty if it is not there. -/
def textOf (file : Option FileState) : List UInt8 := (file.map FileState.bytes).getD []

/-- `_upsert_runtime_secret_file`. -/
def upsertRuntimeSecretFile (request : SecretRequest) : Run Unit := do
  Outside.secretPathSafe.run
  let existing ← (Op.readFile request.secretPath).run
  (Effect.createFile request.secretPath 0o600).run
  Outside.regularUnshared.run
  (Effect.truncateFile request.secretPath).run
  (Effect.writeFile request.secretPath (request.renderSecret (textOf existing))).run
  (Effect.chownFile request.secretPath request.secretUid request.secretGid).run
  (Effect.chmodFile request.secretPath 0o600).run

/-- `_sync_runtime_compose_env_for_secret_values`. -/
def syncRuntimeComposeEnv (request : SecretRequest) : Run Unit :=
  if request.syncsEnv then do
    Outside.slotIds.run
    let existing ← (Op.readFile request.envPath).run
    (Effect.replaceFile request.envPath
      { bytes := request.renderEnv (textOf existing), mode := 0o640, uid := request.envUid,
        gid := request.envGid }).run
  else
    return ()

/-- `try: p except Exception as exc: …` -/
def attempt {α : Type} (p : Run α) : Run (Except Raised α) :=
  tryCatch (do
    let a ← p
    return .ok a) fun e => return .error e

/-- `try: p except Exception: pass` -/
def quietly (p : Run Unit) : Run Unit := tryCatch p fun _ => return ()

/-- `fail_and_restore`. -/
def failAndRestore (items : List Snapshot) (code : Nat) : Run Nat := do
  let restored ← restoreSecretTransaction items
  let recreated : Nat ← if restored then Op.recreate.run else pure 0
  if restored && recreated == 0 then
    removeTree
  Outside.actionLog.run
  return if code = 0 then 1 else code

/-- The phases of the checks; the first that fails ends them. -/
def runPhases : Nat → Run Bool
  | 0 => return true
  | n + 1 => do
      let passed : Bool ← Op.phase.run
      if passed then runPhases n else return false

/-- What follows once the files are written. -/
def activateSecret (request : SecretRequest) (items : List Snapshot) : Run Nat := do
  if request.noRestart then
    Outside.actionLog.run
    removeTree
    return 0
  else
    let code : Nat ← Op.recreate.run
    if code ≠ 0 then
      failAndRestore items code
    else
      let passed ← runPhases request.phases
      if !passed then
        failAndRestore items 1
      else
        Outside.actionLog.run
        removeTree
        return 0

/-- `cmd_runtime_secret_set`. -/
def cmdRuntimeSecretSet (request : SecretRequest) : Run Nat := do
  let begun ← attempt do
    Outside.admission.run
    beginSecretTransaction request.paths
  match begun with
  | .error _ =>
      quietly Outside.actionLog.run
      return 1
  | .ok items =>
    let written ← attempt do
      upsertRuntimeSecretFile request
      syncRuntimeComposeEnv request
    match written with
    | .error _ =>
        let restored ← restoreSecretTransaction items
        if restored then
          removeTree
        quietly Outside.actionLog.run
        return 1
    | .ok _ => activateSecret request items

/-- `cmd_runtime_secret_recover`. -/
def cmdRuntimeSecretRecover : Run Nat :=
  tryCatch
    (do
      Outside.admission.run
      let items ← Op.readManifest.run
      let restored ← restoreSecretTransaction items
      if !restored then
        return 1
      let code : Nat ← Op.recreate.run
      if code ≠ 0 then
        return code
      removeTree
      Outside.actionLog.run
      return 0)
    fun _ => return 1

end AgentRuntimeOps.Secret
