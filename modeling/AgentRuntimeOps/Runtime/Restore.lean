import Mathlib
import AgentRuntimeOps.Runtime.Backup
import AgentRuntimeOps.Runtime.Rules
import AgentRuntimeOps.Lib.Sha256

/-!
# Restoring undoes any mutation
-/

namespace AgentRuntimeOps.Runtime

open AgentRuntimeOps.Lib Program

section restoring

variable [Host]

/-! ## What a backup says -/

/-- The mode and the owner that a backup records for `.env`. -/
def Metadata.envIdentity (metadata : Metadata) : Option (Nat × Nat × Nat) :=
  match metadata.envMode, metadata.envUid, metadata.envGid with
  | some mode, some uid, some gid => some (mode, uid, gid)
  | _, _, _ => none

/-- Everything the flags promise is there. -/
structure Backup.Restorable (b : Backup) : Prop where
  artifact : ∀ file, b.metadata.had file = some true → (b.artifact file).isSome
  identity : b.metadata.hadEnv = some true → b.metadata.envIdentity.isSome

/-- The backup was taken of these files. -/
structure Backup.Of (b : Backup) (files : Managed → Option FileState) : Prop where
  intact : b.intact = true
  had : ∀ file, b.metadata.had file = some (files file).isSome
  bytes : ∀ file, (b.artifact file).map FileState.bytes = (files file).map FileState.bytes
  envMode : b.metadata.envMode = (files .env).map FileState.mode
  envUid : b.metadata.envUid = (files .env).map FileState.uid
  envGid : b.metadata.envGid = (files .env).map FileState.gid

omit [Host] in
lemma Metadata.envIdentity_eq {metadata : Metadata} {file : Option FileState}
    (hmode : metadata.envMode = file.map FileState.mode)
    (huid : metadata.envUid = file.map FileState.uid)
    (hgid : metadata.envGid = file.map FileState.gid) :
    metadata.envIdentity = file.map fun f => (f.mode, f.uid, f.gid) := by
  unfold Metadata.envIdentity
  rw [hmode, huid, hgid]
  cases file with
  | none => rfl
  | some f => rfl

omit [Host] in
lemma Metadata.exists_of_envIdentity {metadata : Metadata}
    (h : metadata.envIdentity.isSome = true) :
    ∃ mode uid gid, metadata.envMode = some mode ∧ metadata.envUid = some uid ∧
      metadata.envGid = some gid := by
  unfold Metadata.envIdentity at h
  split at h
  · rename_i mode uid gid hmode huid hgid
    exact ⟨mode, uid, gid, hmode, huid, hgid⟩
  · cases h

lemma Backup.Of.restorable {b : Backup} {files : Managed → Option FileState} (h : b.Of files) :
    b.Restorable where
  artifact file hhad := by
    rw [h.had file] at hhad
    have hsome : (files file).isSome = true := Option.some.inj hhad
    rw [← Option.isSome_map, h.bytes file, Option.isSome_map]
    exact hsome
  identity hhad := by
    have hsome := h.had .env
    rw [show b.metadata.had .env = b.metadata.hadEnv from rfl, hhad] at hsome
    rw [Metadata.envIdentity_eq h.envMode h.envUid h.envGid, Option.isSome_map]
    exact (Option.some.inj hsome).symm

/-! ## Restoring the files -/

variable {fault : Faults}

/-- Something may go wrong. -/
def Faulty (fault : Faults) : Prop := fault ≠ noFault

omit [Host] in
lemma faulty_of_fault {w : SlotState} {op : Op} {done : Bool} (h : fault w op done) :
    Faulty fault := by
  rintro rfl
  exact h

/-- The file that `_restore_regular_file` leaves. -/
def restoredFile (source : FileState) : Option (Nat × Nat × Nat) → FileState
  | none => { bytes := source.bytes, mode := source.mode, uid := 0, gid := 0 }
  | some (mode, uid, gid) =>
      { bytes := source.bytes, mode := chownMode mode, uid := uid, gid := gid }

/-- The files that a restore leaves. -/
def Backup.restored (b : Backup) (files : Managed → Option FileState) :
    Managed → Option FileState
  | .compose =>
      if b.metadata.hadCompose then (b.artifact .compose).map (restoredFile · none) else none
  | .manifest =>
      if b.metadata.hadManifest then (b.artifact .manifest).map (restoredFile · none) else none
  | .stateManifest =>
      if b.metadata.hadStateManifest then (b.artifact .stateManifest).map (restoredFile · none)
      else none
  | .env =>
      match b.metadata.hadEnv with
      | none => files .env
      | some false => none
      | some true => (b.artifact .env).map (restoredFile · b.metadata.envIdentity)

/-- A program that raises only because of faults. -/
lemma spec_of_faultless {α : Type} {w : SlotState} {p : Run α} {Q : SlotState → α → Prop}
    (hany : Spec fault w p Q fun _ _ => True) (hnone : Spec noFault w p Q fun _ _ => False) :
    Spec fault w p Q fun _ _ => Faulty fault := by
  by_cases hf : Faulty fault
  · exact hany.mono (fun _ _ h => h) fun _ _ _ => hf
  · obtain rfl : fault = noFault := not_not.mp hf
    exact hnone.mono (fun _ _ h => h) fun _ _ h => h.elim

lemma spec_restoreRegularFile (w : SlotState) (source : FileState) (target : Managed)
    (identity : Option (Nat × Nat × Nat)) :
    Spec fault w (restoreRegularFile (some source) target identity)
      (fun w' _ => w' = { w.setFile target (some (restoredFile source identity)) with temp := none })
      (fun _ _ => Faulty fault) := by
  unfold restoreRegularFile
  rcases identity with _ | ⟨mode, uid, gid⟩
  · refine spec_of_faultless ?_ ?_ <;>
      simp [safe_bind, safe_tryCatch, setTempIdentity, Effect.apply, SlotState.setFile,
        restoredFile, noFault]
  · refine spec_of_faultless ?_ ?_ <;>
      simp [safe_bind, safe_tryCatch, setTempIdentity, Effect.apply, SlotState.setFile,
        restoredFile, noFault]

omit [Host] in
lemma SlotState.setFile_eq_self {w : SlotState} {file : Managed} {content : Option FileState}
    (h : w.files file = content) : w.setFile file content = w := by
  subst h
  simp [SlotState.setFile]

lemma spec_readFile {w : SlotState} (file : Managed) :
    Spec fault w (Op.readFile file).run (fun w' r => w' = w ∧ r = w.files file)
      (fun _ _ => Faulty fault) := by
  refine spec_of_faultless ?_ ?_ <;> simp [noFault]

lemma spec_removeRegularFile (w : SlotState) (target : Managed) :
    Spec fault w (removeRegularFile target) (fun w' _ => w' = w.setFile target none)
      (fun _ _ => Faulty fault) := by
  unfold removeRegularFile
  refine spec_of_faultless ?_ ?_
  · cases h : w.files target with
    | none => simp [safe_bind, h, SlotState.setFile_eq_self h]
    | some f => simp [safe_bind, h, Effect.apply]
  · cases h : w.files target with
    | none => simp [safe_bind, h, SlotState.setFile_eq_self h, noFault]
    | some f => simp [safe_bind, h, Effect.apply, noFault]

/-- The state with one file of the plan restored. -/
lemma spec_restorePlanned (w : SlotState) {b : Backup} {had : Bool} {target : Managed}
    (hsource : had = true → (b.artifact target).isSome) :
    Spec fault w (restorePlanned b had target)
      (fun w' _ => ∃ temp, w' = { w.setFile target
        (if had then (b.artifact target).map (restoredFile · none) else none) with temp := temp })
      (fun _ _ => Faulty fault) := by
  cases had with
  | false =>
      refine (spec_removeRegularFile w target).mono ?_ fun _ _ h => h
      rintro w' - rfl
      exact ⟨w.temp, rfl⟩
  | true =>
      obtain ⟨source, hb⟩ := Option.isSome_iff_exists.mp (hsource rfl)
      unfold restorePlanned
      rw [if_pos rfl, hb]
      refine (spec_restoreRegularFile w source target none).mono ?_ fun _ _ h => h
      rintro w' - rfl
      exact ⟨none, rfl⟩

/-- The flag of `.env`, with the mode and the owner when it is set. -/
def Backup.envInputs (b : Backup) : Option Bool × Option (Nat × Nat × Nat) :=
  (b.metadata.hadEnv, if b.metadata.hadEnv = some true then b.metadata.envIdentity else none)

lemma spec_validateEnvRestoreInputs (w : SlotState) {b : Backup} (hb : b.Restorable) :
    Spec fault w (validateEnvRestoreInputs b) (fun w' r => w' = w ∧ r = b.envInputs)
      (fun _ _ => Faulty fault) := by
  unfold validateEnvRestoreInputs Backup.envInputs
  rcases henv : b.metadata.hadEnv with _ | _ | _
  · refine spec_of_faultless ?_ ?_ <;> simp [safe_bind, noFault]
  · refine spec_of_faultless ?_ ?_ <;> simp [safe_bind, noFault]
  · have hart := hb.artifact .env henv
    have hid := hb.identity henv
    obtain ⟨mode, uid, gid, hmode, huid, hgid⟩ := Metadata.exists_of_envIdentity hid
    rw [← Option.not_isNone, Bool.not_eq_true'] at hart
    refine spec_of_faultless ?_ ?_ <;>
      simp [safe_bind, noFault, hart, hmode, huid, hgid, Metadata.envIdentity]

lemma spec_restoreBackupEnv (w : SlotState) {b : Backup} (hb : b.Restorable) :
    Spec fault w (restoreBackupEnv b)
      (fun w' _ => ∃ temp, w' = { w.setFile .env (b.restored w.files .env) with temp := temp })
      (fun _ _ => Faulty fault) := by
  unfold restoreBackupEnv
  refine (spec_validateEnvRestoreInputs w hb).bind ?_
  rintro v r ⟨rfl, rfl⟩
  unfold Backup.envInputs
  simp only [Backup.restored]
  rcases henv : b.metadata.hadEnv with _ | _ | _
  · refine ⟨v.temp, ?_⟩
    exact (SlotState.setFile_eq_self rfl).symm
  · refine (spec_removeRegularFile v .env).mono ?_ fun _ _ h => h
    rintro w' - rfl
    exact ⟨v.temp, rfl⟩
  · obtain ⟨source, hsource⟩ := Option.isSome_iff_exists.mp (hb.artifact .env henv)
    rw [hsource]
    refine (spec_restoreRegularFile v source .env b.metadata.envIdentity).mono ?_ fun _ _ h => h
    rintro w' - rfl
    exact ⟨none, rfl⟩

/-- Every file is put back, or removed. -/
lemma spec_restoreFiles (w : SlotState) {b : Backup} (hb : b.Restorable) :
    Spec fault w (restoreFiles b)
      (fun w' _ => ∃ temp, w' = { w with files := b.restored w.files, temp := temp })
      (fun _ _ => Faulty fault) := by
  unfold restoreFiles
  refine (spec_restoreBackupEnv w hb).bind ?_
  rintro w₁ - ⟨t₁, rfl⟩
  have hcompose := fun h : b.metadata.hadCompose = true =>
    hb.artifact .compose (congrArg some h)
  refine (spec_restorePlanned _ hcompose).bind ?_
  rintro w₂ - ⟨t₂, rfl⟩
  have hmanifest := fun h : b.metadata.hadManifest = true =>
    hb.artifact .manifest (congrArg some h)
  refine (spec_restorePlanned _ hmanifest).bind ?_
  rintro w₃ - ⟨t₃, rfl⟩
  have hstate := fun h : b.metadata.hadStateManifest = true =>
    hb.artifact .stateManifest (congrArg some h)
  refine (spec_restorePlanned _ hstate).mono ?_ fun _ _ h => h
  rintro w₄ - ⟨t₄, rfl⟩
  refine ⟨t₄, ?_⟩
  simp only [SlotState.setFile]
  congr 1
  funext file
  cases file with
  | compose => simp [Function.update, Backup.restored]
  | manifest => simp [Function.update, Backup.restored]
  | stateManifest => simp [Function.update, Backup.restored]
  | env => simp [Function.update, Backup.restored]

/-! ## The marker -/

/-- The slot has this backup, whole. -/
structure SlotState.Has (w : SlotState) (name : BackupName) (b : Backup) : Prop where
  lookup : w.backup? name = some b
  intact : b.intact = true
  restorable : b.Restorable

/-- The marker binds this backup. -/
structure Marker.For (m : Marker) (name : BackupName) (b : Backup) : Prop where
  name : m.backupName = name
  digest : m.backupMetadataDigest = Host.metadataDigest b.metadata

variable {w : SlotState} {name : BackupName} {b : Backup} {m : Marker}

lemma SlotState.Has.loadBackup (h : w.Has name b) : w.loadBackup name = .ok b := by
  unfold SlotState.loadBackup
  rw [h.lookup]
  exact if_pos h.intact

lemma SlotState.loadMarker_none (h : w.marker = none) : w.loadMarker = .ok none := by
  unfold SlotState.loadMarker
  rw [h]

lemma SlotState.Has.loadMarker (h : w.Has name b) (hm : w.marker = some m) (hfor : m.For name b) :
    w.loadMarker = .ok (some m) := by
  unfold SlotState.loadMarker
  rw [hm]
  simp only [hfor.name, h.loadBackup]
  exact if_pos hfor.digest

/-- No rollback of another backup is pending. -/
def SlotState.Free (w : SlotState) (name : BackupName) (b : Backup) : Prop :=
  w.marker = none ∨ ∃ m, w.marker = some m ∧ m.For name b

/-- The backup is bound by the marker, and tokens were drawn or not. -/
def SlotState.Bound (w w' : SlotState) (name : BackupName) (b : Backup) : Prop :=
  ∃ m t, m.For name b ∧ w.tokens ≤ t ∧ w' = { w with marker := some m, tokens := t }

lemma spec_readBackup (hw : w.Has name b) :
    Spec fault w (Op.readBackup name).run (fun w' r => w' = w ∧ r = b)
      (fun _ _ => Faulty fault) := by
  refine spec_of_faultless ?_ ?_ <;> simp [hw.loadBackup, noFault]

lemma spec_pendingRollbackBackup {found : Option Marker} (hload : w.loadMarker = .ok found) :
    Spec fault w pendingRollbackBackup (fun w' r => w' = w ∧ r = found.map Marker.backupName)
      (fun _ _ => Faulty fault) := by
  unfold pendingRollbackBackup
  refine spec_of_faultless ?_ ?_ <;> simp [safe_bind, hload, noFault]

lemma spec_beginRollbackTransaction (hw : w.Has name b) (hfree : w.Free name b) :
    Spec fault w (beginRollbackTransaction name) (fun w' _ => w.Bound w' name b)
      (fun _ _ => Faulty fault) := by
  unfold beginRollbackTransaction
  refine (spec_readBackup hw).bind ?_
  rintro v r ⟨rfl, rfl⟩
  rcases hfree with hnone | ⟨m, hm, hfor⟩
  · refine (spec_pendingRollbackBackup (SlotState.loadMarker_none hnone)).bind ?_
    rintro w' - ⟨rfl, rfl⟩
    refine spec_of_faultless ?_ ?_ <;>
      simpa [safe_bind, Effect.apply, noFault] using ⟨_, _, ⟨rfl, rfl⟩, Nat.le_succ _, rfl⟩
  · refine (spec_pendingRollbackBackup (hw.loadMarker hm hfor)).bind ?_
    rintro w' - ⟨rfl, rfl⟩
    have hname := hfor.name
    simp only [Option.map_some, hname, ne_eq, not_true_eq_false, if_false]
    refine ⟨m, w'.tokens, hfor, le_rfl, ?_⟩
    rw [← hm]

omit [Host] in
@[simp] lemma ExpectedTransaction.mismatch?_self (expected : ExpectedTransaction) :
    expected.mismatch? expected = none := by
  simp [ExpectedTransaction.mismatch?]

lemma spec_requireExactPendingRollback (hw : w.Has name b) (hm : w.marker = some m)
    (hfor : m.For name b) :
    Spec fault w (requireExactPendingRollback m.identity) (fun w' r => w' = w ∧ r = name)
      (fun _ _ => Faulty fault) := by
  have hload := hw.loadMarker hm hfor
  unfold requireExactPendingRollback pendingRollbackIdentity
  have hname : m.identity.backupName = m.backupName := rfl
  refine spec_of_faultless ?_ ?_ <;>
    simp [safe_bind, safe_tryCatch, hload, hname, hw.loadBackup, hfor.name, noFault]

/-- How `restore_backup` is called: without an expected transaction when no other rollback is
pending, or with that of the pending marker. -/
inductive Admits (w : SlotState) (name : BackupName) (b : Backup) :
    Option ExpectedTransaction → Prop where
  | plain : w.Free name b → Admits w name b none
  | exact {m : Marker} : w.marker = some m → m.For name b → Admits w name b (some m.identity)

lemma spec_admitRestore {expected : Option ExpectedTransaction} (hw : w.Has name b)
    (hadmits : Admits w name b expected) :
    Spec fault w (admitRestore name expected) (fun w' _ => w.Bound w' name b)
      (fun _ _ => Faulty fault) := by
  cases hadmits with
  | plain hfree => exact spec_beginRollbackTransaction hw hfree
  | @exact m hm hfor =>
      have hbound : w.Bound w name b := ⟨m, w.tokens, hfor, le_rfl, by rw [← hm]⟩
      refine (spec_requireExactPendingRollback hw hm hfor).bind ?_
      rintro w' r ⟨rfl, rfl⟩
      refine spec_of_faultless ?_ ?_ <;> simpa [safe_bind, noFault] using hbound

/-! ## The whole restore -/

/-- Only the containers may differ. -/
def SlotState.UpToContainers (w w' : SlotState) : Prop :=
  ∃ containers, w' = { w with containers := containers }

omit [Host] in
lemma SlotState.AfterFailedDocker.upToContainers {w' : SlotState} {command : Docker}
    (h : w.AfterFailedDocker command w') : w.UpToContainers w' := by
  cases command with
  | up => exact h
  | down => exact h
  | config => exact ⟨w.containers, h⟩
  | projectResidue => exact ⟨w.containers, h⟩

/-- A docker command that is answered with `false` has failed, unless it is the residue query. -/
lemma spec_docker {command : Docker} (hcommand : command ≠ .projectResidue) :
    Spec fault w (Op.docker command).run
      (fun w' r => w.UpToContainers w' ∧ (r = true → w' = w.afterDocker command) ∧
        (r = false → Faulty fault))
      (fun _ _ => Faulty fault) := by
  have hafter : w.UpToContainers (w.afterDocker command) := by
    cases command with
    | up => exact ⟨_, rfl⟩
    | down => exact ⟨_, rfl⟩
    | config => exact ⟨w.containers, rfl⟩
    | projectResidue => exact ⟨w.containers, rfl⟩
  have hanswer : w.dockerAnswer command = true := by
    cases command with
    | projectResidue => exact absurd rfl hcommand
    | up => rfl
    | down => rfl
    | config => rfl
  refine safe_docker.mpr ⟨trivial, ⟨hafter, fun _ => rfl, ?_⟩, fun hf w' hw' => ?_⟩
  · rw [hanswer]
    exact nofun
  · have hfaulty := faulty_of_fault hf
    exact ⟨⟨hw'.upToContainers, nofun, fun _ => hfaulty⟩, fun _ => hfaulty⟩

/-- Stopping the containers of an unwanted compose file touches nothing else. -/
lemma spec_stopUnwantedContainers :
    Spec fault w (stopUnwantedContainers b)
      (fun w' r => w.UpToContainers w' ∧ (r = false → Faulty fault)) (fun _ _ => Faulty fault) := by
  unfold stopUnwantedContainers
  cases hb : b.metadata.hadCompose with
  | true => exact ⟨⟨w.containers, rfl⟩, nofun⟩
  | false =>
      refine (spec_readFile .compose).bind ?_
      rintro v (_ | f) ⟨rfl, -⟩
      · exact ⟨⟨v.containers, rfl⟩, nofun⟩
      · exact (spec_docker (by decide)).mono (fun _ _ h => ⟨h.1, h.2.2⟩) fun _ _ h => h

/-- The containers run what the compose file says; none run without one. -/
def SlotState.Deployed (w : SlotState) : Prop :=
  w.containers = (w.files .compose).map FileState.bytes

lemma spec_redeployBaseline :
    Spec fault w redeployBaseline
      (fun w' r => w.UpToContainers w' ∧
        (r.1 = true → w'.Deployed ∧ r.2 ≠ .rollbackEmptyBaselineRestored))
      (fun _ _ => Faulty fault) := by
  unfold redeployBaseline
  refine (spec_docker (by decide)).bind ?_
  rintro w₁ config ⟨⟨c₁, rfl⟩, -, -⟩
  cases config with
  | false => exact ⟨⟨c₁, rfl⟩, nofun⟩
  | true =>
      refine (spec_docker (by decide)).bind ?_
      rintro w₂ up ⟨⟨c₂, rfl⟩, hup, -⟩
      cases up with
      | false => exact ⟨⟨c₂, rfl⟩, nofun⟩
      | true =>
          refine ⟨⟨c₂, rfl⟩, fun _ => ⟨?_, by simp⟩⟩
          rw [hup rfl]
          rfl

lemma spec_projectResidue :
    Spec fault w (Op.docker .projectResidue).run
      (fun w' r => w' = w ∧ (r = true → w.containers = none)) (fun _ _ => Faulty fault) := by
  refine safe_docker.mpr ⟨trivial, ⟨rfl, Option.isNone_iff_eq_none.mp⟩, fun hf w' hw' => ?_⟩
  exact ⟨⟨hw', nofun⟩, fun _ => faulty_of_fault hf⟩

lemma spec_verifyEmptyBaseline :
    Spec fault w (verifyEmptyBaseline b)
      (fun w' r => w' = w ∧ (r.1 = true → w.Deployed)) (fun _ _ => Faulty fault) := by
  unfold verifyEmptyBaseline
  refine (spec_readFile .compose).bind ?_
  rintro v compose ⟨rfl, hcompose⟩
  refine (spec_readFile .manifest).bind ?_
  rintro v manifest ⟨rfl, -⟩
  refine (spec_readFile .stateManifest).bind ?_
  rintro v stateManifest ⟨rfl, -⟩
  refine (spec_readFile .env).bind ?_
  rintro v env ⟨rfl, -⟩
  split
  · exact ⟨rfl, nofun⟩
  · rename_i hremain
    refine spec_projectResidue.bind ?_
    rintro v clean ⟨rfl, hclean⟩
    cases clean with
    | false => exact ⟨rfl, nofun⟩
    | true =>
        refine ⟨rfl, fun _ => ?_⟩
        have hnone : compose = none := by
          cases compose with
          | none => rfl
          | some f => simp at hremain
        unfold SlotState.Deployed
        rw [hclean rfl, ← hcompose, hnone]
        rfl

/-- A step of another module. -/
lemma spec_check (c : Check) :
    Spec fault w c.run (fun w' _ => w' = w) (fun _ _ => Faulty fault) := by
  refine spec_of_faultless ?_ ?_ <;> simp [noFault]

/-- What `restore_backup` does to a slot that has the backup, when no other rollback is pending:
whether it succeeds or not, the marker binds the backup, and the files are restored unless docker
could not stop the containers. -/
lemma spec_restoreBackup {expected : Option ExpectedTransaction} (hw : w.Has name b)
    (hadmits : Admits w name b expected) :
    Spec fault w (restoreBackup name expected)
      (fun w' r => ∃ m t temp files containers, m.For name b ∧ w.tokens ≤ t ∧
        w' = { w with marker := some m, tokens := t, temp := temp, files := files,
                      containers := containers } ∧
        (files = b.restored w.files ∨ r.1 = false ∧ Faulty fault) ∧
        (r.1 = true → w'.Deployed))
      (fun _ _ => Faulty fault) := by
  unfold restoreBackup
  refine (spec_readBackup hw).bind ?_
  rintro w₁ r ⟨rfl, rfl⟩
  refine (spec_validateEnvRestoreInputs w₁ hw.restorable).bind ?_
  rintro w₂ - ⟨rfl, -⟩
  have hparent : Spec fault w₂ (ensureStateManifestParent expected) (fun w' _ => w' = w₂)
      (fun _ _ => Faulty fault) := by
    unfold ensureStateManifestParent
    split
    · exact spec_check _
    · exact rfl
  refine hparent.bind ?_
  rintro w₃ - rfl
  refine (spec_check _).bind ?_
  rintro w₄ - rfl
  refine (spec_admitRestore hw hadmits).bind ?_
  rintro w₅ - ⟨m, t, hfor, ht, rfl⟩
  refine spec_stopUnwantedContainers.bind ?_
  rintro w₆ stopped ⟨⟨c₆, rfl⟩, hstopped⟩
  cases stopped with
  | false =>
      exact ⟨m, t, w₄.temp, w₄.files, c₆, hfor, ht, rfl, .inr ⟨rfl, hstopped rfl⟩, nofun⟩
  | true =>
      refine (spec_restoreFiles _ hw.restorable).bind ?_
      rintro w₇ - ⟨temp, rfl⟩
      split
      · refine spec_redeployBaseline.mono ?_ fun _ _ h => h
        rintro w₈ r ⟨⟨c₈, rfl⟩, hdeployed⟩
        exact ⟨m, t, temp, _, c₈, hfor, ht, rfl, .inl rfl, fun h => (hdeployed h).1⟩
      · refine spec_verifyEmptyBaseline.mono ?_ fun _ _ h => h
        rintro w₈ r ⟨rfl, hdeployed⟩
        exact ⟨m, t, temp, _, c₆, hfor, ht, rfl, .inl rfl, hdeployed⟩

/-! ## Interrupted restores -/

/-- What a restore, wherever it stops, leaves as it was: the backups, the canary transaction and its
receipts; and the marker stays or binds the restored backup. -/
structure SlotState.Near (w w' : SlotState) (name : BackupName) : Prop where
  backups : w'.backups = w.backups
  stagings : w'.stagings = w.stagings
  canary : w'.canary = w.canary
  receipts : w'.receipts = w.receipts
  tokens : w.tokens ≤ w'.tokens
  marker : w'.marker = w.marker ∨
    ∃ m b, w'.marker = some m ∧ w.loadBackup name = .ok b ∧ m.For name b

lemma SlotState.Near.refl (w : SlotState) (name : BackupName) : w.Near w name :=
  ⟨rfl, rfl, rfl, rfl, le_rfl, .inl rfl⟩

/-- The operations of a restore that touch neither a backup nor a transaction. -/
def Op.Quiet : Op → Prop
  | .effect e =>
      match e with
      | .makeTemp | .copyToTemp _ | .chmodTemp _ | .chownTemp _ _ | .replaceTemp _ | .removeTemp
      | .unlinkFile _ => True
      | _ => False
  | .importLegacyBackups => False
  | _ => True

/-- The operation replaces a managed file by a new text. -/
def Op.WritesFile : Op → Prop
  | .effect (.writeFile _ _ _) => True
  | _ => False

omit [Host] in
lemma Op.Quiet.not_writesFile {op : Op} (h : op.Quiet) : ¬ op.WritesFile := by
  cases op with
  | effect e =>
      cases e with
      | writeFile => exact h.elim
      | _ => exact id
  | _ => exact id

/-- What a quiet operation leaves as it was. -/
structure SlotState.SameTransactions (w w' : SlotState) : Prop where
  backups : w'.backups = w.backups
  stagings : w'.stagings = w.stagings
  canary : w'.canary = w.canary
  receipts : w'.receipts = w.receipts
  tokens : w.tokens ≤ w'.tokens
  marker : w'.marker = w.marker

omit [Host] in
lemma SlotState.SameTransactions.refl (w : SlotState) : w.SameTransactions w :=
  ⟨rfl, rfl, rfl, rfl, le_rfl, rfl⟩

lemma Op.Quiet.sameTransactions {op : Op} (hop : op.Quiet) {r : Except Raised op.Res}
    {w' : SlotState} (h : Outcome fault w op r w') : w.SameTransactions w' := by
  cases op with
  | effect e =>
      rcases h with ⟨-, rfl⟩ | ⟨-, ⟨-, rfl⟩ | ⟨-, rfl⟩⟩
      · cases e with
        | makeTemp | copyToTemp | chmodTemp | chownTemp | replaceTemp | removeTemp | unlinkFile =>
            exact ⟨rfl, rfl, rfl, rfl, le_rfl, rfl⟩
        | _ => exact hop.elim
      · exact .refl w'
      · cases e with
        | makeTemp | copyToTemp | chmodTemp | chownTemp | replaceTemp | removeTemp | unlinkFile =>
            exact ⟨rfl, rfl, rfl, rfl, le_rfl, rfl⟩
        | _ => exact hop.elim
  | importLegacyBackups => exact hop.elim
  | check => obtain ⟨rfl, -⟩ := h; exact .refl w'
  | clock => obtain ⟨-, rfl⟩ := h; exact .refl w'
  | token => obtain ⟨-, rfl⟩ := h; exact ⟨rfl, rfl, rfl, rfl, Nat.le_succ _, rfl⟩
  | readFile => obtain ⟨-, rfl⟩ := h; exact .refl w'
  | readMarker => obtain ⟨-, rfl⟩ := h; exact .refl w'
  | readBackup => obtain ⟨-, rfl⟩ := h; exact .refl w'
  | listBackups => obtain ⟨-, rfl⟩ := h; exact .refl w'
  | readContract => obtain ⟨-, rfl⟩ := h; exact .refl w'
  | copyToStaging => obtain ⟨-, rfl⟩ := h; exact .refl w'
  | readCanary => obtain ⟨-, rfl⟩ := h; exact .refl w'
  | prepareRuntimeEnv => obtain ⟨-, content, rfl⟩ := h; exact ⟨rfl, rfl, rfl, rfl, le_rfl, rfl⟩
  | liveChecks => obtain ⟨-, rfl⟩ := h; exact .refl w'
  | docker command =>
      rcases h with ⟨-, rfl⟩ | ⟨-, -, h⟩
      · cases command <;> exact ⟨rfl, rfl, rfl, rfl, le_rfl, rfl⟩
      · obtain ⟨c, rfl⟩ := h.upToContainers
        exact ⟨rfl, rfl, rfl, rfl, le_rfl, rfl⟩

lemma SlotState.SameTransactions.near {w' : SlotState} (h : w.SameTransactions w')
    (name : BackupName) : w.Near w' name :=
  ⟨h.backups, h.stagings, h.canary, h.receipts, h.tokens, .inl h.marker⟩

lemma SlotState.loadBackup_congr {w' : SlotState} (h : w'.backups = w.backups)
    (name : BackupName) : w'.loadBackup name = w.loadBackup name := by
  unfold SlotState.loadBackup SlotState.backup?
  rw [h]

lemma SlotState.Near.trans {w₁ w₂ : SlotState} (h : w.Near w₁ name) (h' : w₁.Near w₂ name) :
    w.Near w₂ name where
  backups := h'.backups.trans h.backups
  stagings := h'.stagings.trans h.stagings
  canary := h'.canary.trans h.canary
  receipts := h'.receipts.trans h.receipts
  tokens := h.tokens.trans h'.tokens
  marker := by
    rcases h'.marker with hsame | ⟨m, b, hm, hb, hfor⟩
    · rw [hsame]
      exact h.marker
    · refine .inr ⟨m, b, hm, ?_, hfor⟩
      rw [← SlotState.loadBackup_congr h.backups]
      exact hb

/-- The run is near, and does not write a file next. -/
def SlotState.NearAt (w : SlotState) (name : BackupName) (w' : SlotState) (op : Op) : Prop :=
  w.Near w' name ∧ ¬ op.WritesFile

/-- A program of quiet operations stays near. -/
lemma near_of_quiet {α : Type} {p : Run α} {w₁ : SlotState} (hp : AllOps Op.Quiet p)
    (hnear : w.Near w₁ name) :
    Safe ⟨w.NearAt name, Outcome fault⟩ (fun w' _ => w.Near w' name)
      (fun w' _ => w.Near w' name) w₁ p :=
  safe_mono_pre
    (safe_invariant hp (fun _ _ _ _ hop h hr => h.trans ((hop.sameTransactions hr).near name)) hnear)
    fun _ _ h => ⟨h.1, h.2.not_writesFile⟩

omit [Host] in
lemma quiet_pure {α : Type} (a : α) : AllOps Op.Quiet (pure a : Run α) := trivial

omit [Host] in
lemma quiet_throw {α : Type} (e : Raised) : AllOps Op.Quiet (throw e : Run α) := trivial

omit [Host] in
lemma quiet_run {op : Op} (h : op.Quiet) : AllOps Op.Quiet op.run := allOps_perform.mpr h

omit [Host] in
lemma quiet_restoreRegularFile (source : Option FileState) (target : Managed)
    (identity : Option (Nat × Nat × Nat)) :
    AllOps Op.Quiet (restoreRegularFile source target identity) := by
  cases source with
  | none => exact quiet_throw _
  | some source =>
      refine allOps_bind (quiet_run trivial) fun _ => allOps_bind (quiet_run trivial) fun _ => ?_
      refine allOps_tryCatch ?_ fun _ => allOps_bind (quiet_run trivial) fun _ => quiet_throw _
      refine allOps_bind (quiet_run trivial) fun _ => allOps_bind ?_ fun _ => quiet_run trivial
      cases identity with
      | none => exact quiet_pure _
      | some identity => exact allOps_bind (quiet_run trivial) fun _ => quiet_run trivial

omit [Host] in
lemma quiet_removeRegularFile (target : Managed) : AllOps Op.Quiet (removeRegularFile target) := by
  refine allOps_bind (quiet_run trivial) fun _ => allOps_bind (quiet_run trivial) fun found => ?_
  cases found with
  | none => exact quiet_pure _
  | some f => exact quiet_run trivial

omit [Host] in
lemma quiet_validateEnvRestoreInputs (b : Backup) :
    AllOps Op.Quiet (validateEnvRestoreInputs b) := by
  refine allOps_bind (quiet_run trivial) fun _ => ?_
  rcases b.metadata.hadEnv with _ | _ | _
  · exact quiet_pure _
  · exact quiet_pure _
  · dsimp only
    split
    · exact quiet_throw _
    · split
      · exact quiet_pure _
      · exact quiet_throw _

omit [Host] in
lemma quiet_restoreBackupEnv (b : Backup) : AllOps Op.Quiet (restoreBackupEnv b) := by
  refine allOps_bind (quiet_validateEnvRestoreInputs b) ?_
  rintro ⟨_ | _ | _, identity⟩
  · exact quiet_pure _
  · exact quiet_removeRegularFile _
  · exact quiet_restoreRegularFile _ _ _

omit [Host] in
lemma quiet_restorePlanned (b : Backup) (had : Bool) (target : Managed) :
    AllOps Op.Quiet (restorePlanned b had target) := by
  unfold restorePlanned
  split
  · exact quiet_restoreRegularFile _ _ _
  · exact quiet_removeRegularFile _

omit [Host] in
lemma quiet_restoreFiles (b : Backup) : AllOps Op.Quiet (restoreFiles b) :=
  allOps_bind (quiet_restoreBackupEnv b) fun _ => allOps_bind (quiet_restorePlanned _ _ _) fun _ =>
    allOps_bind (quiet_restorePlanned _ _ _) fun _ => quiet_restorePlanned _ _ _

omit [Host] in
lemma quiet_stopUnwantedContainers (b : Backup) : AllOps Op.Quiet (stopUnwantedContainers b) := by
  unfold stopUnwantedContainers
  split
  · exact quiet_pure _
  · refine allOps_bind (quiet_run trivial) fun found => ?_
    cases found with
    | none => exact quiet_pure _
    | some f => exact quiet_run trivial

omit [Host] in
lemma quiet_redeployBaseline : AllOps Op.Quiet redeployBaseline := by
  refine allOps_bind (quiet_run trivial) fun config => ?_
  split
  · exact quiet_pure _
  · refine allOps_bind (quiet_run trivial) fun up => ?_
    split <;> exact quiet_pure _

omit [Host] in
lemma quiet_verifyEmptyBaseline (b : Backup) : AllOps Op.Quiet (verifyEmptyBaseline b) := by
  refine allOps_bind (quiet_run trivial) fun _ => allOps_bind (quiet_run trivial) fun _ =>
    allOps_bind (quiet_run trivial) fun _ => allOps_bind (quiet_run trivial) fun _ => ?_
  split
  · exact quiet_pure _
  · refine allOps_bind (quiet_run trivial) fun clean => ?_
    split <;> exact quiet_pure _

omit [Host] in
lemma quiet_pendingRollbackBackup : AllOps Op.Quiet pendingRollbackBackup :=
  allOps_bind (quiet_run trivial) fun _ => quiet_pure _

lemma quiet_pendingRollbackIdentity : AllOps Op.Quiet pendingRollbackIdentity :=
  allOps_bind (quiet_run trivial) fun _ => quiet_pure _

lemma quiet_requireExactPendingRollback (expected : ExpectedTransaction) :
    AllOps Op.Quiet (requireExactPendingRollback expected) := by
  refine allOps_bind (allOps_tryCatch quiet_pendingRollbackIdentity fun _ => quiet_throw _) ?_
  rintro (_ | observed)
  · exact quiet_throw _
  · dsimp only
    split
    · exact quiet_throw _
    · exact allOps_bind (quiet_run trivial) fun _ => quiet_pure _

lemma near_beginRollbackTransaction {w₁ : SlotState} (hnear : w.Near w₁ name) :
    Safe ⟨w.NearAt name, Outcome fault⟩ (fun w' _ => w.Near w' name)
      (fun w' _ => w.Near w' name) w₁ (beginRollbackTransaction name) := by
  have hkeep : Safe ⟨w.NearAt name, Outcome fault⟩ (fun w' _ => w' = w₁)
      (fun w' _ => w.Near w' name) w₁ pendingRollbackBackup :=
    safe_bind.mpr (safe_readMarker.mpr ⟨⟨hnear, id⟩, fun _ _ => rfl, fun _ _ => hnear,
      fun _ _ => hnear⟩)
  refine safe_bind.mpr (safe_readBackup.mpr ⟨⟨hnear, id⟩, fun b hb => ?_, fun _ _ => hnear,
    fun _ _ => hnear⟩)
  refine hkeep.bind ?_
  rintro w₂ (_ | existing) rfl
  · have hdrawn : w.Near { w₂ with tokens := w₂.tokens + 1 } name :=
      ⟨hnear.backups, hnear.stagings, hnear.canary, hnear.receipts,
        hnear.tokens.trans (Nat.le_succ _), hnear.marker⟩
    have hmarked : w.Near { w₂ with
        tokens := w₂.tokens + 1, marker := some (newMarker name b w₂.tokens) } name := by
      rw [SlotState.loadBackup_congr hnear.backups] at hb
      exact ⟨hnear.backups, hnear.stagings, hnear.canary, hnear.receipts,
        hnear.tokens.trans (Nat.le_succ _), .inr ⟨_, b, rfl, hb, rfl, rfl⟩⟩
    refine safe_bind.mpr (safe_token.mpr ⟨⟨hnear, id⟩, safe_effect.mpr ?_⟩)
    exact ⟨⟨hdrawn, id⟩, hmarked, fun _ _ => hdrawn, fun _ _ => hmarked⟩
  · dsimp only
    split
    · exact hnear
    · exact hnear

/-- A restore stays near, wherever it stops. -/
lemma near_restoreBackup {expected : Option ExpectedTransaction} {w₁ : SlotState}
    (hnear : w.Near w₁ name) :
    Safe ⟨w.NearAt name, Outcome fault⟩ (fun w' _ => w.Near w' name)
      (fun w' _ => w.Near w' name) w₁ (restoreBackup name expected) := by
  have hadmit : ∀ w', w.Near w' name →
      Safe ⟨w.NearAt name, Outcome fault⟩ (fun w' _ => w.Near w' name)
        (fun w' _ => w.Near w' name) w' (admitRestore name expected) := by
    intro w' h
    cases expected with
    | none => exact near_beginRollbackTransaction h
    | some expected =>
        refine near_of_quiet (allOps_bind (quiet_requireExactPendingRollback expected) ?_) h
        intro exact
        split
        · exact quiet_throw _
        · exact allOps_bind (quiet_run trivial) fun _ => quiet_run trivial
  have hparent : AllOps Op.Quiet (ensureStateManifestParent expected) := by
    unfold ensureStateManifestParent
    split
    · exact quiet_run trivial
    · exact quiet_pure _
  have hread : AllOps Op.Quiet (Op.readBackup name).run := quiet_run trivial
  have htargets : AllOps Op.Quiet Check.managedTargets.run := quiet_run trivial
  refine (near_of_quiet hread hnear).bind fun w₂ b h₂ => ?_
  refine (near_of_quiet (quiet_validateEnvRestoreInputs b) h₂).bind fun w₃ _ h₃ => ?_
  refine (near_of_quiet hparent h₃).bind fun w₄ _ h₄ => ?_
  refine (near_of_quiet htargets h₄).bind fun w₅ _ h₅ => ?_
  refine ( hadmit w₅ h₅).bind fun w₆ _ h₆ => ?_
  refine (near_of_quiet (quiet_stopUnwantedContainers b) h₆).bind fun w₇ stopped h₇ => ?_
  cases stopped with
  | false => exact h₇
  | true =>
      refine (near_of_quiet (quiet_restoreFiles b) h₇).bind fun w₈ _ h₈ => ?_
      split
      · exact near_of_quiet quiet_redeployBaseline h₈
      · exact near_of_quiet (quiet_verifyEmptyBaseline b) h₈

/-! ## Taking a backup -/

lemma SlotState.marker_of_loadMarker (h : w.loadMarker = .ok none) : w.marker = none := by
  unfold SlotState.loadMarker at h
  split at h
  · assumption
  · split at h
    · cases h
    · split at h <;> cases h

lemma spec_stageFile (w : SlotState) (file : Managed) :
    Spec fault w (stageFile (w.files file).isSome file)
      (fun w' r => w' = w ∧ r = w.files file) (fun w' _ => w' = w) := by
  unfold stageFile
  cases hfile : w.files file with
  | none => exact ⟨rfl, rfl⟩
  | some f => simp [safe_bind, SlotState.copyFile, hfile]

lemma spec_sha256File (w : SlotState) (file : Option FileState) :
    Spec fault w (sha256File file)
      (fun w' r => w' = w ∧ r = file.map (fun f => Host.sha256 f.bytes) ∧
        ∀ f, file = some f → f.bytes.length ≤ maxArtifactBytes)
      (fun w' _ => w' = w) := by
  cases file with
  | none => exact ⟨rfl, rfl, nofun⟩
  | some f =>
      simp only [sha256File]
      by_cases hlen : f.bytes.length ≤ maxArtifactBytes
      · rw [if_pos hlen]
        refine ⟨rfl, rfl, ?_⟩
        rintro f' ⟨⟩
        exact hlen
      · rw [if_neg hlen]
        exact rfl

/-- An artifact with its digest is intact. -/
lemma Backup.intactAt_of {file : Managed} {f : Option FileState}
    (hhad : b.metadata.had file = some f.isSome) (hart : b.artifact file = f)
    (hdigest : b.metadata.artifactDigest file = f.map fun f => Host.sha256 f.bytes)
    (hlen : ∀ g, f = some g → g.bytes.length ≤ maxArtifactBytes) : b.intactAt file = true := by
  unfold Backup.intactAt
  rw [hhad, hart, hdigest]
  cases f with
  | none => rfl
  | some g => simp [hlen g rfl]

lemma spec_stageBackup (w : SlotState) (createdAt : Int) :
    Spec fault w
      (stageBackup createdAt (w.files .compose) (w.files .manifest) (w.files .stateManifest)
        (w.files .env))
      (fun w' b => w' = w ∧ b.Of w.files) (fun w' _ => w' = w) := by
  unfold stageBackup
  refine (spec_stageFile w .compose).bind ?_
  rintro _ _ ⟨rfl, rfl⟩
  refine (spec_stageFile _ .env).bind ?_
  rintro w _ ⟨rfl, rfl⟩
  refine (spec_stageFile w .manifest).bind ?_
  rintro _ _ ⟨rfl, rfl⟩
  refine (spec_stageFile _ .stateManifest).bind ?_
  rintro w _ ⟨rfl, rfl⟩
  refine (spec_sha256File w _).bind ?_
  rintro _ _ ⟨rfl, rfl, hmanifest⟩
  refine (spec_sha256File _ _).bind ?_
  rintro w _ ⟨rfl, rfl, henv⟩
  refine (spec_sha256File w _).bind ?_
  rintro _ _ ⟨rfl, rfl, hcompose⟩
  refine (spec_sha256File _ _).bind ?_
  rintro w _ ⟨rfl, rfl, hstate⟩
  refine ⟨rfl, ?_, ?_, ?_, rfl, rfl, rfl⟩
  · have hmap : ((w.files .env).map fun f => { f with mode := 0o600 }).isSome
        = (w.files .env).isSome := Option.isSome_map
    unfold Backup.intact
    rw [Backup.intactAt_of rfl rfl rfl hmanifest,
      Backup.intactAt_of (by rw [hmap]; rfl) rfl rfl henv,
      Backup.intactAt_of rfl rfl rfl hcompose, Backup.intactAt_of rfl rfl rfl hstate]
    rfl
  · rintro (_ | _ | _ | _) <;> rfl
  · rintro (_ | _ | _ | _)
    · rfl
    · rfl
    · rfl
    · exact Option.map_map _ _ _

/-- A failed backup leaves a staging directory, or the backup itself, at most. -/
def SlotState.AfterFailedBackup (w w' : SlotState) : Prop :=
  ∃ n taken, w' = { w with stagings := n, backups := taken ++ w.backups }

omit [Host] in
lemma SlotState.AfterFailedBackup.refl (w : SlotState) : w.AfterFailedBackup w :=
  ⟨w.stagings, [], rfl⟩

omit [Host] in
lemma SlotState.AfterFailedBackup.stagings {w' : SlotState} (h : w.AfterFailedBackup w')
    (n : Nat) : w.AfterFailedBackup { w' with stagings := n } := by
  obtain ⟨_, taken, rfl⟩ := h
  exact ⟨n, taken, rfl⟩

/-- The handler of a failed backup. -/
lemma spec_removeStaging {w' : SlotState} (h : w.AfterFailedBackup w') (e : Raised)
    {Q : SlotState → BackupName → Prop} :
    Spec fault w'
      (do
        tryCatch Effect.removeStaging.run fun _ => return ()
        throw e)
      Q (fun w' _ => w.AfterFailedBackup w') := by
  simp only [safe_bind, safe_tryCatch, safe_effect, safe_pure, safe_throw, Effect.apply]
  exact ⟨trivial, h.stagings _, fun _ _ => h, fun _ _ => h.stagings _⟩

/-- Staging and publishing. -/
lemma spec_publishBackup (w : SlotState) (name : BackupName) (createdAt : Int) :
    Spec fault w
      (tryCatch
        (do
          let backup ← stageBackup createdAt (w.files .compose) (w.files .manifest)
            (w.files .stateManifest) (w.files .env)
          (Effect.publishBackup name backup).run
          return name)
        fun e => do
          tryCatch Effect.removeStaging.run fun _ => return ()
          throw e)
      (fun w' r => r = name ∧ ∃ b, b.Of w.files ∧
        w' = { w with stagings := w.stagings - 1, backups := (name, b) :: w.backups })
      (fun w' _ => w.AfterFailedBackup w') := by
  rw [Spec, safe_tryCatch]
  refine Safe.bind ((spec_stageBackup w createdAt).mono (fun _ _ h => h) ?_) ?_
  · rintro w' e rfl
    exact spec_removeStaging (.refl w') e
  rintro w' b ⟨rfl, hb⟩
  refine safe_bind.mpr (safe_effect.mpr ⟨trivial, ?_, fun _ _ => ?_, fun _ _ => ?_⟩)
  · exact ⟨rfl, b, hb, rfl⟩
  · exact spec_removeStaging (.refl w') _
  · exact spec_removeStaging ⟨_, [(name, b)], rfl⟩ _

/-- Publishing a backup adds it to the slot's backups, and changes nothing else. -/
lemma spec_backupAgentRuntimeState (w : SlotState) :
    Spec fault w backupAgentRuntimeState
      (fun w' name => ∃ b, b.Of w.files ∧ w.marker = none ∧
        w' = { w with backups := (name, b) :: w.backups })
      (fun w' _ => w.AfterFailedBackup w') := by
  have hsame := SlotState.AfterFailedBackup.refl w
  have hfile : ∀ file, Spec fault w (Op.readFile file).run
      (fun w' r => w' = w ∧ r = w.files file) fun w' _ => w.AfterFailedBackup w' := fun file =>
    safe_readFile.mpr ⟨trivial, ⟨rfl, rfl⟩, fun _ _ => hsame⟩
  have hclock : Spec fault w Op.clock.run (fun w' _ => w' = w) fun w' _ =>
      w.AfterFailedBackup w' := safe_clock.mpr ⟨trivial, fun _ => rfl⟩
  have hpending : Spec fault w pendingRollbackBackup
      (fun w' r => w' = w ∧ (r = none → w.marker = none)) fun w' _ => w.AfterFailedBackup w' := by
    refine safe_bind.mpr (safe_readMarker.mpr ⟨trivial, fun m hload => ⟨rfl, ?_⟩,
      fun _ _ => hsame, fun _ _ => hsame⟩)
    cases m with
    | none => exact fun _ => SlotState.marker_of_loadMarker hload
    | some m => exact nofun
  have hnames : Spec fault w Op.listBackups.run (fun w' _ => w' = w) fun w' _ =>
      w.AfterFailedBackup w' :=
    safe_listBackups.mpr ⟨trivial, fun _ _ => rfl, fun _ _ => hsame, fun _ _ => hsame⟩
  unfold backupAgentRuntimeState
  refine hpending.bind ?_
  rintro _ (_ | pending) ⟨rfl, hmarker⟩
  · refine hclock.bind ?_
    rintro _ instant rfl
    refine hclock.bind ?_
    rintro _ offset rfl
    refine hnames.bind ?_
    rintro _ names rfl
    refine (hfile .env).bind ?_
    rintro _ _ ⟨rfl, rfl⟩
    refine hclock.bind ?_
    rintro _ createdAt rfl
    refine (hfile .compose).bind ?_
    rintro _ _ ⟨rfl, rfl⟩
    refine (hfile .manifest).bind ?_
    rintro _ _ ⟨rfl, rfl⟩
    refine (hfile .stateManifest).bind ?_
    rintro w _ ⟨rfl, rfl⟩
    simp only [safe_bind, safe_effect]
    refine ⟨trivial, ?_, fun _ _ => hsame, fun _ _ => hsame.stagings _⟩
    refine (spec_publishBackup _ _ createdAt).mono ?_ ?_
    · rintro w' _ ⟨rfl, b, hb, rfl⟩
      exact ⟨b, hb, hmarker rfl, rfl⟩
    · rintro w' - ⟨n, taken, rfl⟩
      exact ⟨n, taken, rfl⟩
  · exact hsame

/-! ## A restore undoes every mutation -/

/-- The mode and the owner of a file. -/
def FileState.identity (f : FileState) : Nat × Nat × Nat := (f.mode, f.uid, f.gid)

/-- Every managed file is as it was: present or absent, with its bytes, and `.env` with its mode and
its owner. -/
structure Undone (before after : Managed → Option FileState) : Prop where
  bytes : ∀ file, (after file).map FileState.bytes = (before file).map FileState.bytes
  env : (after .env).map FileState.identity = (before .env).map FileState.identity

lemma Backup.Of.restored_bytes {before : Managed → Option FileState} (h : b.Of before)
    (later : Managed → Option FileState) (file : Managed) :
    (b.restored later file).map FileState.bytes = (before file).map FileState.bytes := by
  have hplanned : ∀ had : Bool, had = (before file).isSome →
      ((if had then (b.artifact file).map (restoredFile · none) else none).map FileState.bytes)
        = (before file).map FileState.bytes := by
    rintro had rfl
    rw [← h.bytes file]
    cases hfile : before file with
    | none =>
        have hnone := h.bytes file
        rw [hfile, Option.map_none, Option.map_eq_none_iff] at hnone
        rw [hnone]
        rfl
    | some f => simp [Function.comp_def, restoredFile]
  have hhad := h.had file
  cases file with
  | compose => exact hplanned _ (Option.some.inj hhad)
  | manifest => exact hplanned _ (Option.some.inj hhad)
  | stateManifest => exact hplanned _ (Option.some.inj hhad)
  | env =>
      rw [← h.bytes .env]
      simp only [Backup.restored]
      rw [show b.metadata.hadEnv = some (before .env).isSome from hhad]
      cases hfile : before .env with
      | none =>
          have hnone := h.bytes .env
          rw [hfile, Option.map_none, Option.map_eq_none_iff] at hnone
          rw [hnone]
          rfl
      | some f =>
          simp only [Option.isSome_some, Option.map_map]
          congr 1
          funext g
          simp only [Function.comp_apply, restoredFile]
          split <;> rfl

lemma Backup.Of.restored_env {before : Managed → Option FileState} (h : b.Of before)
    (later : Managed → Option FileState) :
    (b.restored later .env).map FileState.identity =
      (before .env).map fun f => (chownMode f.mode, f.uid, f.gid) := by
  have hid := Metadata.envIdentity_eq h.envMode h.envUid h.envGid
  have hhad := h.had .env
  simp only [Backup.restored]
  rw [show b.metadata.hadEnv = some (before .env).isSome from hhad, hid]
  cases hfile : before .env with
  | none => rfl
  | some f =>
      have hbytes := h.bytes .env
      rw [hfile] at hbytes
      obtain ⟨g, hg, -⟩ := Option.map_eq_some_iff.mp hbytes
      rw [hg]
      rfl

/-- `chown` keeps the mode that was restored: the mode has no set-user-ID bit, and no
set-group-ID bit together with the group's execute bit. -/
def SurvivesChown (before : Managed → Option FileState) : Prop :=
  ∀ f, before .env = some f → chownMode f.mode = f.mode

lemma Backup.Of.undone_iff {before : Managed → Option FileState} (h : b.Of before)
    (later : Managed → Option FileState) :
    Undone before (b.restored later) ↔ SurvivesChown before := by
  constructor
  · rintro ⟨-, henv⟩ f hf
    rw [h.restored_env later, hf] at henv
    exact congrArg Prod.fst (Option.some.inj henv)
  · intro hmode
    refine ⟨h.restored_bytes later, ?_⟩
    rw [h.restored_env later]
    cases hf : before .env with
    | none => rfl
    | some f =>
        simp only [Option.map_some, FileState.identity]
        rw [hmode f hf]

/-- Restores of one backup that are cut off anywhere, or fail, one after the other. -/
def InterruptedRestores (name : BackupName) : SlotState → SlotState → Prop :=
  Relation.ReflTransGen fun w w' => ∃ expected,
    Stops (Outcome anyFault) (fun _ _ => True) (restoreBackup name expected) w w'

lemma InterruptedRestores.near {w' : SlotState} (h : InterruptedRestores name w w') :
    w.Near w' name := by
  induction h with
  | refl => exact .refl w name
  | @tail v w' _ hstep ih =>
      obtain ⟨expected, hstop⟩ := hstep
      have hsafe := @near_restoreBackup _ anyFault _ _ expected _ (SlotState.Near.refl v name)
      exact ih.trans (hstop.of_safe (safe_mono_pre hsafe fun _ _ h _ => h.1))

lemma SlotState.has_of_cons {taken : List (BackupName × Backup)} (hb : b.intact = true)
    (hr : b.Restorable) (h : w.backups = (name, b) :: taken) : w.Has name b := by
  refine ⟨?_, hb, hr⟩
  unfold SlotState.backup?
  rw [h]
  simp

/-- A restore of this backup that is not interrupted, and whose docker commands succeed, ends; it
returns, leaves every file as it was when the backup was taken, and the marker names the backup. -/
def RestoreUndoes (name : BackupName) (expected : Option ExpectedTransaction)
    (before : Managed → Option FileState) (w : SlotState) : Prop :=
  (∃ x w', Ends (Outcome noFault) (restoreBackup name expected) w x w') ∧
    ∀ x w', Ends (Outcome noFault) (restoreBackup name expected) w x w' →
      (∃ r, x = .ok r) ∧ Undone before w'.files ∧ ∃ m, w'.marker = some m ∧ m.backupName = name

end restoring

/-! ## A sample slot -/

section samples

/-- A host whose manifests describe one product and one wrapper image. -/
@[reducible] def sampleHost : Host where
  sha256 bytes := "sha256:".toList ++ Lib.hexdigest bytes
  metadataDigest _ := "sha256:".toList ++ List.replicate 64 '0'
  markerDigest _ := "sha256:".toList ++ List.replicate 64 '1'
  contract _ := .ok
    { productImage := some ("product@sha256:".toList ++ List.replicate 64 '2')
      wrapperImage := some ("wrapper@sha256:".toList ++ List.replicate 64 '3') }

attribute [local instance] sampleHost

/-- A slot whose only managed file is an empty `.env` of that mode. -/
def envSlot (mode : Nat) : SlotState where
  files
    | .env => some { bytes := [], mode := mode, uid := 1000, gid := 1000 }
    | _ => none
  backups := []
  stagings := 0
  marker := none
  canary := none
  receipts := []
  temp := none
  containers := none
  tokens := 0

/-- The slot after its backup. -/
def backedUpEnvSlot (mode : Nat) : SlotState :=
  (eval (execute nothingBroken) backupAgentRuntimeState (envSlot mode)).2

/-- The name of that backup. -/
def sampleBackupName : BackupName := { instant := 0, offset := 0, suffix := 1 }

lemma ends_backup_envSlot {mode : Nat}
    (h : (eval (execute nothingBroken) backupAgentRuntimeState (envSlot mode)).1 =
      .ok sampleBackupName) :
    Ends (Outcome anyFault) backupAgentRuntimeState (envSlot mode) (.ok sampleBackupName)
      (backedUpEnvSlot mode) := by
  have hrun := ends_execute anyFault backupAgentRuntimeState (envSlot mode)
  rw [h] at hrun
  exact hrun

end samples

end AgentRuntimeOps.Runtime
