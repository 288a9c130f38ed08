import AgentRuntimeOps.Secret.Basic

/-!
# Recovery of a secret transaction

Wherever `runtime-secret set` is cut off, it leaves no lock directory and both files old or both
new, or a lock directory all of whose entries are what the transaction put there (`Left`).
`runtime-secret recover` then puts both files back exactly when the manifest is whole and every
copy that it names is there (`secret_recoverable_iff`): the lock directory is made before its
manifest, and removed in any order.
-/

namespace AgentRuntimeOps.Secret

open AgentRuntimeOps.Lib Program
open AgentRuntimeOps.Runtime (FileState chownMode)

/-! ## What each step obliges a proof to -/

section rules

variable {pre : World → Op → Prop} {fault : Faults} {E : World → Raised → Prop} {w : World}

@[simp] lemma safe_outside {step : Outside} {Q : World → Unit → Prop} :
    Safe ⟨pre, Outcome fault⟩ Q E w step.run ↔
      pre w (.outside step) ∧ Q w () ∧ (fault (.outside step) → ∀ e, E w e) := by
  refine safe_perform.trans (and_congr_right fun _ => ⟨fun h => ?_, fun h => ⟨?_, ?_⟩⟩)
  · exact ⟨h.1 () w ⟨rfl, .inl rfl⟩, fun hf e => h.2 e w ⟨rfl, .inr hf⟩⟩
  · rintro a w' ⟨rfl, -⟩
    exact h.1
  · rintro e w' ⟨rfl, hr | hf⟩
    · cases hr
    · exact h.2 hf e

@[simp] lemma safe_effect {e : Effect} {Q : World → Unit → Prop} :
    Safe ⟨pre, Outcome fault⟩ Q E w e.run ↔ pre w (.effect e) ∧ Q (e.apply w) () := by
  refine safe_perform.trans (and_congr_right fun _ => ⟨fun h => ?_, fun h => ⟨?_, ?_⟩⟩)
  · exact h.1 () _ ⟨rfl, rfl⟩
  · rintro a w' ⟨-, rfl⟩
    exact h
  · rintro x w' ⟨hr, -⟩
    cases hr

@[simp] lemma safe_readFile {path : String} {Q : World → Option FileState → Prop} :
    Safe ⟨pre, Outcome fault⟩ Q E w (Op.readFile path).run ↔
      pre w (.readFile path) ∧ Q w (w.files path) ∧ (fault (.readFile path) → ∀ e, E w e) := by
  refine safe_perform.trans (and_congr_right fun _ => ⟨fun h => ?_, fun h => ⟨?_, ?_⟩⟩)
  · exact ⟨h.1 _ w ⟨rfl, .inl rfl⟩, fun hf e => h.2 e w ⟨rfl, .inr ⟨hf, e, rfl⟩⟩⟩
  · rintro a w' ⟨rfl, hr | ⟨-, e, hr⟩⟩
    · cases hr
      exact h.1
    · cases hr
  · rintro e w' ⟨rfl, hr | ⟨hf, e', hr⟩⟩
    · cases hr
    · exact h.2 hf e

@[simp] lemma safe_readManifest {Q : World → List Snapshot → Prop} :
    Safe ⟨pre, Outcome fault⟩ Q E w Op.readManifest.run ↔
      pre w .readManifest ∧ (∀ items, w.loadManifest = .ok items → Q w items) ∧
        ∀ e, w.loadManifest = .error e → E w e := by
  refine safe_perform.trans (and_congr_right fun _ => ⟨fun h => ?_, fun h => ⟨?_, ?_⟩⟩)
  · exact ⟨fun items hl => h.1 items w ⟨rfl, hl.symm⟩, fun e hl => h.2 e w ⟨rfl, hl.symm⟩⟩
  · rintro a w' ⟨rfl, hr⟩
    exact h.1 a hr.symm
  · rintro e w' ⟨rfl, hr⟩
    exact h.2 e hr.symm

@[simp] lemma safe_readBackup {role : Role} {Q : World → Option (List UInt8) → Prop} :
    Safe ⟨pre, Outcome fault⟩ Q E w (Op.readBackup role).run ↔
      pre w (.readBackup role) ∧ Q w (w.backup? role) := by
  refine safe_perform.trans (and_congr_right fun _ => ⟨fun h => h.1 _ w ⟨rfl, rfl⟩,
    fun h => ⟨?_, ?_⟩⟩)
  · rintro a w' ⟨rfl, hr⟩
    cases hr
    exact h
  · rintro e w' ⟨-, hr⟩
    cases hr

@[simp] lemma safe_listLock {Q : World → List Entry → Prop} :
    Safe ⟨pre, Outcome fault⟩ Q E w Op.listLock.run ↔
      pre w .listLock ∧ ∀ entries : List Entry,
        (∀ entry, entry ∈ entries ↔ ∃ lock, w.lock = some lock ∧ lock.has entry = true) →
          Q w entries := by
  refine safe_perform.trans (and_congr_right fun _ => ⟨fun h => ?_, fun h => ⟨?_, ?_⟩⟩)
  · exact fun entries hl => h.1 entries w ⟨rfl, entries, rfl, hl⟩
  · rintro a w' ⟨rfl, entries, hr, hl⟩
    cases hr
    exact h _ hl
  · rintro e w' ⟨-, entries, hr, -⟩
    cases hr

@[simp] lemma safe_recreate {Q : World → Nat → Prop} :
    Safe ⟨pre, Outcome fault⟩ Q E w Op.recreate.run ↔
      pre w .recreate ∧ Q w 0 ∧ (fault .recreate → (∀ code, Q w code) ∧ ∀ e, E w e) := by
  refine safe_perform.trans (and_congr_right fun _ => ⟨fun h => ?_, fun h => ⟨?_, ?_⟩⟩)
  · exact ⟨h.1 0 w ⟨rfl, .inl rfl⟩, fun hf =>
      ⟨fun code => h.1 code w ⟨rfl, .inr hf⟩, fun e => h.2 e w ⟨rfl, .inr hf⟩⟩⟩
  · rintro a w' ⟨rfl, hr | hf⟩
    · cases hr
      exact h.1
    · exact (h.2 hf).1 a
  · rintro e w' ⟨rfl, hr | hf⟩
    · cases hr
    · exact (h.2 hf).2 e

@[simp] lemma safe_phase {Q : World → Bool → Prop} :
    Safe ⟨pre, Outcome fault⟩ Q E w Op.phase.run ↔
      pre w .phase ∧ Q w true ∧ (fault .phase → Q w false ∧ ∀ e, E w e) := by
  refine safe_perform.trans (and_congr_right fun _ => ⟨fun h => ?_, fun h => ⟨?_, ?_⟩⟩)
  · exact ⟨h.1 true w ⟨rfl, .inl rfl⟩, fun hf =>
      ⟨h.1 false w ⟨rfl, .inr hf⟩, fun e => h.2 e w ⟨rfl, .inr hf⟩⟩⟩
  · rintro (_ | _) w' ⟨rfl, hr | hf⟩
    · cases hr
    · exact (h.2 hf).1
    · exact h.1
    · exact h.1
  · rintro e w' ⟨rfl, hr | hf⟩
    · cases hr
    · exact (h.2 hf).2 e

lemma safe_makeLock {Q : World → Unit → Prop} (hlock : w.lock = none) :
    Safe ⟨pre, Outcome fault⟩ Q E w Op.makeLock.run ↔
      pre w .makeLock ∧ Q { w with lock := some ⟨fun _ => none, none⟩ } () := by
  have hanswer : ∀ r w', Outcome fault w .makeLock r w' ↔
      r = .ok () ∧ w' = { w with lock := some ⟨fun _ => none, none⟩ } := by
    intro r w'
    simp only [Outcome, hlock]
  refine safe_perform.trans (and_congr_right fun _ => ⟨fun h => ?_, fun h => ⟨?_, ?_⟩⟩)
  · exact h.1 () _ ((hanswer _ _).mpr ⟨rfl, rfl⟩)
  · intro a w' hr
    obtain ⟨-, rfl⟩ := (hanswer _ _).mp hr
    exact h
  · intro e w' hr
    obtain ⟨hr, -⟩ := (hanswer _ _).mp hr
    cases hr

/-- A loop keeps what each of its rounds keeps. -/
lemma safe_forEach {α β : Type} {f : α → Run β} {as : List α} {I : World → Prop}
    (hf : ∀ a ∈ as, ∀ w, I w → Safe ⟨pre, Outcome fault⟩ (fun w' _ => I w') E w (f a))
    (hw : I w) : Safe ⟨pre, Outcome fault⟩ (fun w' _ => I w') E w (forEach f as) := by
  induction as generalizing w with
  | nil => exact hw
  | cons a as ih =>
      refine (hf a List.mem_cons_self w hw).bind fun w' _ hw' => ?_
      refine (ih (fun a ha => hf a (List.mem_cons_of_mem _ ha)) hw').bind fun w'' _ hw'' => ?_
      exact hw''

end rules

/-! ## What a transaction leaves -/

/-- What the manifest keeps of a file. -/
def savedOf (file : FileState) : Saved where
  uid := file.uid
  gid := file.gid
  mode := file.mode
  sha256 := hexdigest file.bytes

/-- The manifest of a transaction that began with these files. -/
def SecretRequest.items (request : SecretRequest) (files : String → Option FileState) :
    List Snapshot :=
  request.paths.map fun item =>
    { role := item.1, path := item.2, saved := (files item.2).map savedOf }

/-- The files after a complete `set`. -/
def SecretRequest.newFiles (request : SecretRequest) (files : String → Option FileState) :
    String → Option FileState :=
  let written := Function.update files request.secretPath (some {
    bytes := request.renderSecret (textOf (files request.secretPath))
    mode := 0o600
    uid := request.secretUid
    gid := request.secretGid })
  if request.syncsEnv then
    Function.update written request.envPath (some {
      bytes := request.renderEnv (textOf (written request.envPath))
      mode := 0o640
      uid := request.envUid
      gid := request.envGid })
  else written

section left

variable (request : SecretRequest) (files : String → Option FileState)

/-- What is in the lock directory was put there by the transaction. -/
structure Faithful (lock : LockDir) : Prop where
  manifest : ∀ items, lock.manifest = some (.complete items) → items = request.items files
  backups : ∀ items, lock.manifest = some (.complete items) → ∀ item ∈ request.paths,
    ∀ bytes, lock.backups item.1 = some bytes → (files item.2).map FileState.bytes = some bytes

/-- The lock directory is complete. -/
structure Intact (lock : LockDir) : Prop where
  manifest : lock.manifest = some (.complete (request.items files))
  backups : ∀ item ∈ request.paths, lock.backups item.1 = (files item.2).map FileState.bytes

/-- Only the files of the transaction differ. -/
def Framed (w : World) : Prop :=
  ∀ path, path ∉ request.paths.map Prod.snd → w.files path = files path

/-- Both files are old, or both are new. -/
def Settled (w : World) : Prop := w.files = files ∨ w.files = request.newFiles files

/-- What `set` leaves, wherever it stops. -/
def Left (w : World) : Prop :=
  (w.lock = none ∧ Settled request files w) ∨
    ∃ lock, w.lock = some lock ∧ Faithful request files lock ∧ Framed request files w

end left

variable {request : SecretRequest} {files : String → Option FileState} {w : World} {lock : LockDir}

lemma Intact.faithful (h : Intact request files lock) : Faithful request files lock where
  manifest items hitems := by
    rw [h.manifest] at hitems
    cases hitems
    rfl
  backups _ _ item hitem bytes hbytes := by
    rw [← h.backups item hitem]
    exact hbytes

lemma Faithful.remove (h : Faithful request files lock) (entry : Entry) :
    Faithful request files (lock.remove entry) := by
  cases entry with
  | manifest => exact ⟨nofun, nofun⟩
  | backup role =>
      refine ⟨h.manifest, fun items hitems item hitem bytes hbytes => ?_⟩
      refine h.backups items hitems item hitem bytes ?_
      by_cases hrole : item.1 = role
      · subst hrole
        simp [LockDir.remove] at hbytes
      · simpa [LockDir.remove, hrole] using hbytes

lemma framed_of_settled (h : Settled request files w) : Framed request files w := by
  intro path hpath
  rcases h with h | h
  · rw [h]
  · have hsecret : path ≠ request.secretPath := by
      rintro rfl
      exact hpath (by simp [SecretRequest.paths])
    rw [h, SecretRequest.newFiles]
    by_cases hsyncs : request.syncsEnv = true
    · have henv : path ≠ request.envPath := by
        rintro rfl
        exact hpath (by simp [SecretRequest.paths, hsyncs])
      simp [hsyncs, hsecret, henv]
    · simp [hsyncs, hsecret]

lemma Framed.setFile (h : Framed request files w) {path : String} {content : Option FileState}
    (hpath : path ∈ request.paths.map Prod.snd) :
    Framed request files (w.setFile path content) := by
  intro other hother
  have hne : other ≠ path := by
    rintro rfl
    exact hother hpath
  rw [← h other hother]
  exact Function.update_of_ne hne _ _

/-! ## Single parts -/

section parts

variable {E : World → Raised → Prop} {fault : Faults}

/-- Removing the lock directory of files that are settled. -/
lemma safe_removeTree (hlock : w.lock = some lock) (hfaithful : Faithful request files lock)
    (hsettled : Settled request files w) :
    Safe ⟨fun w _ => Left request files w, Outcome fault⟩
      (fun w' _ => w' = { w with lock := none }) E w removeTree := by
  have hframed := framed_of_settled hsettled
  have hleft : ∀ lock, Faithful request files lock →
      Left request files { w with lock := some lock } :=
    fun lock h => .inr ⟨lock, rfl, h, hframed⟩
  have hw : w = { w with lock := some lock } := by rw [← hlock]
  unfold removeTree
  refine safe_bind.mpr (safe_listLock.mpr ⟨?_, fun entries _ => ?_⟩)
  · rw [hw]
    exact hleft lock hfaithful
  have hloop : Safe ⟨fun w _ => Left request files w, Outcome fault⟩
      (fun w' _ => ∃ lock, Faithful request files lock ∧ w' = { w with lock := some lock }) E w
      (forEach (fun entry => (Effect.unlinkEntry entry).run) entries) := by
    refine safe_forEach ?_ ⟨lock, hfaithful, hw⟩
    rintro entry - _ ⟨lock', hfaithful', rfl⟩
    refine safe_effect.mpr ⟨hleft lock' hfaithful', lock'.remove entry, hfaithful'.remove entry, ?_⟩
    rfl
  refine hloop.bind ?_
  rintro _ _ ⟨lock', hfaithful', rfl⟩
  exact safe_effect.mpr ⟨hleft lock' hfaithful', rfl⟩

/-- A lock directory without a manifest says nothing. -/
lemma faithful_of_unmanifested (h : ∀ items, lock.manifest ≠ some (.complete items)) :
    Faithful request files lock :=
  ⟨fun items hitems => absurd hitems (h items), fun items hitems => absurd hitems (h items)⟩

/-- Where the manifest is not whole, the files are as they were. -/
lemma left_of_opening (hfiles : w.files = files)
    (h : ∀ items, lock.manifest ≠ some (.complete items)) :
    Left request files { w with lock := some lock } :=
  .inr ⟨lock, rfl, faithful_of_unmanifested h, framed_of_settled (.inl hfiles)⟩

/-- The copies of these files are made, and no others. -/
structure Copied (files : String → Option FileState) (done : List (Role × String))
    (lock : LockDir) : Prop where
  manifest : lock.manifest = none
  made : ∀ item ∈ done, lock.backups item.1 = (files item.2).map FileState.bytes
  others : ∀ role, role ∉ done.map Prod.fst → lock.backups role = none

lemma Copied.left {done : List (Role × String)} (h : Copied files done lock)
    (hfiles : w.files = files) : Left request files { w with lock := some lock } := by
  refine left_of_opening hfiles ?_
  rw [h.manifest]
  exact nofun

/-- The copy of one file. -/
lemma safe_snapshot {done : List (Role × String)} {role : Role} {path : String}
    (hfiles : w.files = files) (h : Copied files done lock) (hrole : role ∉ done.map Prod.fst) :
    Safe ⟨fun w _ => Left request files w, Outcome fault⟩
      (fun w' item => item = ⟨role, path, (files path).map savedOf⟩ ∧
        ∃ lock', w' = { w with lock := some lock' } ∧ Copied files (done ++ [(role, path)]) lock')
      (fun w' _ => ∃ lock', w' = { w with lock := some lock' } ∧ lock'.manifest = none)
      { w with lock := some lock } (snapshot role path) := by
  have hother : ∀ bytes, Copied files (done ++ [(role, path)])
      { lock with backups := Function.update lock.backups role bytes } ↔
        bytes = (files path).map FileState.bytes := by
    intro bytes
    constructor
    · intro hcopied
      have hmade := hcopied.made (role, path) (by simp)
      simpa using hmade
    · rintro rfl
      refine ⟨h.manifest, fun item hitem => ?_, fun other hnot => ?_⟩
      · rcases List.mem_append.mp hitem with hold | hnew
        · have hne : item.1 ≠ role := by
            rintro rfl
            exact hrole (List.mem_map_of_mem hold)
          rw [← h.made item hold]
          exact Function.update_of_ne hne _ _
        · obtain rfl := List.mem_singleton.mp hnew
          exact Function.update_self _ _ _
      · rw [List.map_append, List.mem_append, not_or] at hnot
        have hne : other ≠ role := by simpa using hnot.2
        rw [← h.others other hnot.1]
        exact Function.update_of_ne hne _ _
  unfold snapshot
  refine safe_bind.mpr (safe_readFile.mpr ⟨h.left hfiles, ?_, fun _ _ => ⟨lock, rfl, h.manifest⟩⟩)
  have hread : ({ w with lock := some lock } : World).files path = files path := by
    rw [← hfiles]
  rw [hread]
  cases hfile : files path with
  | none =>
      refine ⟨rfl, lock, rfl, ?_⟩
      have hnone := (hother none).mpr (by rw [hfile]; rfl)
      rwa [show Function.update lock.backups role none = lock.backups by
        rw [← h.others role hrole, Function.update_eq_self]] at hnone
  | some file =>
      refine safe_bind.mpr (safe_effect.mpr ⟨h.left hfiles, ?_⟩)
      refine safe_bind.mpr (safe_effect.mpr ⟨?_, ?_⟩)
      · refine left_of_opening hfiles ?_
        rw [show ({ lock with backups := Function.update lock.backups role (some []) } :
          LockDir).manifest = none from h.manifest]
        exact nofun
      · refine ⟨rfl, { lock with backups := Function.update lock.backups role (some file.bytes) },
          ?_, (hother _).mpr (by rw [hfile]; rfl)⟩
        simp [Effect.apply, World.mapLock]

/-- The copies of all files. -/
lemma safe_snapshots (done todo : List (Role × String))
    (hroles : ((done ++ todo).map Prod.fst).Nodup) (hfiles : w.files = files)
    (h : Copied files done lock) :
    Safe ⟨fun w _ => Left request files w, Outcome fault⟩
      (fun w' items => items = todo.map (fun item => ⟨item.1, item.2, (files item.2).map savedOf⟩) ∧
        ∃ lock', w' = { w with lock := some lock' } ∧ Copied files (done ++ todo) lock')
      (fun w' _ => ∃ lock', w' = { w with lock := some lock' } ∧ lock'.manifest = none)
      { w with lock := some lock } (forEach (fun item => snapshot item.1 item.2) todo) := by
  induction todo generalizing done lock with
  | nil => exact ⟨rfl, lock, rfl, by rwa [List.append_nil]⟩
  | cons item todo ih =>
      have hnew : item.1 ∉ done.map Prod.fst := by
        rw [List.map_append, List.nodup_append] at hroles
        intro hmem
        exact hroles.2.2 _ hmem item.1 (by simp) rfl
      refine (safe_snapshot hfiles h hnew).bind ?_
      rintro _ first ⟨rfl, lock₁, rfl, h₁⟩
      have hroles₁ : ((done ++ [item] ++ todo).map Prod.fst).Nodup := by
        rwa [List.append_assoc, List.singleton_append]
      refine (ih (done ++ [item]) hroles₁ h₁).bind ?_
      rintro _ rest ⟨rfl, lock₂, rfl, h₂⟩
      refine ⟨rfl, lock₂, rfl, ?_⟩
      rwa [List.append_assoc, List.singleton_append] at h₂

lemma SecretRequest.nodup_roles (request : SecretRequest) :
    (request.paths.map Prod.fst).Nodup := by
  unfold SecretRequest.paths
  split_ifs
  · simp
  · simp

/-- The transaction is open, or nothing has happened. -/
lemma safe_beginSecretTransaction (hfiles : w.files = files) (hlock : w.lock = none) :
    Safe ⟨fun w _ => Left request files w, Outcome fault⟩
      (fun w' items => items = request.items files ∧
        ∃ lock, w' = { w with lock := some lock } ∧ Intact request files lock)
      (fun w' _ => w' = w) w (beginSecretTransaction request.paths) := by
  have hempty : Copied files [] ⟨fun _ => none, none⟩ := ⟨rfl, by simp, fun _ _ => rfl⟩
  -- the handler removes what was made
  have hhandler : ∀ (lock : LockDir) (e : Raised), lock.manifest = none →
      Safe ⟨fun w _ => Left request files w, Outcome fault⟩
        (fun w' items => items = request.items files ∧
          ∃ lock, w' = { w with lock := some lock } ∧ Intact request files lock)
        (fun w' _ => w' = w) { w with lock := some lock } (do
          removeTree
          throw e) := by
    intro lock e hmanifest
    have hfaithful : Faithful request files lock :=
      faithful_of_unmanifested (by rw [hmanifest]; exact nofun)
    have hsettled : Settled request files { w with lock := some lock } := .inl hfiles
    refine (safe_removeTree rfl hfaithful hsettled).bind ?_
    rintro _ _ rfl
    change World.mk w.files none = w
    rw [← hlock]
  unfold beginSecretTransaction
  refine safe_bind.mpr ((safe_makeLock hlock).mpr ⟨.inl ⟨hlock, .inl hfiles⟩, ?_⟩)
  rw [safe_tryCatch]
  refine safe_bind.mpr (((safe_snapshots [] request.paths request.nodup_roles hfiles hempty).mono
    ?_ ?_))
  · rintro _ items ⟨rfl, lock, rfl, hcopied⟩
    rw [List.nil_append] at hcopied
    refine safe_bind.mpr (safe_effect.mpr ⟨hcopied.left hfiles, ?_⟩)
    refine safe_bind.mpr (safe_effect.mpr ⟨left_of_opening hfiles nofun, ?_⟩)
    exact ⟨rfl, { lock with manifest := some (.complete (request.items files)) }, rfl, rfl,
      hcopied.made⟩
  · rintro _ e ⟨lock, rfl, hmanifest⟩
    exact hhandler lock e hmanifest

/-! ### Writing and restoring files -/

/-- The lock directory is complete, and only the files of the transaction differ. -/
structure Kept (request : SecretRequest) (files : String → Option FileState) (lock : LockDir)
    (w : World) : Prop where
  lock_eq : w.lock = some lock
  intact : Intact request files lock
  framed : Framed request files w

lemma Kept.left (h : Kept request files lock w) : Left request files w :=
  .inr ⟨lock, h.lock_eq, h.intact.faithful, h.framed⟩

lemma Kept.setFile (h : Kept request files lock w) {path : String} {content : Option FileState}
    (hpath : path ∈ request.paths.map Prod.snd) :
    Kept request files lock (w.setFile path content) :=
  ⟨h.lock_eq, h.intact, h.framed.setFile hpath⟩

lemma Kept.createFile (h : Kept request files lock w) {path : String} {mode : Nat}
    (hpath : path ∈ request.paths.map Prod.snd) :
    Kept request files lock ((Effect.createFile path mode).apply w) := by
  simp only [Effect.apply]
  split
  · exact h.setFile hpath
  · exact h

/-- The file that writing a path from its creation on leaves. -/
lemma apply_written (w : World) (path : String) (bytes : List UInt8) (created mode uid gid : Nat) :
    (Effect.chmodFile path mode).apply ((Effect.chownFile path uid gid).apply
      ((Effect.writeFile path bytes).apply ((Effect.truncateFile path).apply
        ((Effect.createFile path created).apply w)))) =
      w.setFile path (some { bytes := bytes, mode := mode, uid := uid, gid := gid }) := by
  cases hfile : w.files path with
  | none => simp [Effect.apply, World.mapFile, World.setFile, hfile]
  | some file => simp [Effect.apply, World.mapFile, World.setFile, hfile]

/-- The same with a mode that is set in between. -/
lemma apply_copied (w : World) (path : String) (bytes : List UInt8)
    (created between mode uid gid : Nat) :
    (Effect.chmodFile path mode).apply ((Effect.chownFile path uid gid).apply
      ((Effect.chmodFile path between).apply
        ((Effect.writeFile path bytes).apply ((Effect.truncateFile path).apply
          ((Effect.createFile path created).apply w))))) =
      w.setFile path (some { bytes := bytes, mode := mode, uid := uid, gid := gid }) := by
  cases hfile : w.files path with
  | none => simp [Effect.apply, World.mapFile, World.setFile, hfile]
  | some file => simp [Effect.apply, World.mapFile, World.setFile, hfile]

/-- The file that a copy and what the manifest keeps of it make. -/
def Saved.file (saved : Saved) (bytes : List UInt8) : FileState where
  bytes := bytes
  mode := saved.mode
  uid := saved.uid
  gid := saved.gid

lemma savedOf_file (file : FileState) : (savedOf file).file file.bytes = file := rfl

lemma safe_restoreCopy (h : Kept request files lock w) {path : String} (bytes : List UInt8)
    (saved : Saved) (hpath : path ∈ request.paths.map Prod.snd) :
    Safe ⟨fun w _ => Left request files w, Outcome fault⟩
      (fun w' _ => w' = w.setFile path (some (saved.file bytes))) E w
      (restoreCopy path bytes saved) := by
  have h₁ : Kept request files lock ((Effect.createFile path 0o644).apply w) := h.createFile hpath
  have h₂ : Kept request files lock ((Effect.truncateFile path).apply _) := h₁.setFile hpath
  have h₃ : Kept request files lock ((Effect.writeFile path bytes).apply _) := h₂.setFile hpath
  have h₄ : Kept request files lock ((Effect.chmodFile path 0o600).apply _) := h₃.setFile hpath
  have h₅ : Kept request files lock ((Effect.chownFile path saved.uid saved.gid).apply _) :=
    h₄.setFile hpath
  unfold restoreCopy
  simp only [safe_bind, safe_effect]
  exact ⟨h.left, h₁.left, h₂.left, h₃.left, h₄.left, h₅.left, apply_copied _ _ _ _ _ _ _ _⟩

lemma SecretRequest.mem_items {item : Snapshot} :
    item ∈ request.items files ↔ (item.role, item.path) ∈ request.paths ∧
      item.saved = (files item.path).map savedOf := by
  constructor
  · intro h
    obtain ⟨pair, hpair, rfl⟩ := List.mem_map.mp h
    exact ⟨hpair, rfl⟩
  · rintro ⟨hpair, hsaved⟩
    refine List.mem_map.mpr ⟨_, hpair, ?_⟩
    rw [← hsaved]

/-- An item of the transaction is put back; only a fault gets in the way. -/
lemma safe_restoreItem (h : Kept request files lock w) {item : Snapshot}
    (hitem : item ∈ request.items files) :
    Safe ⟨fun w _ => Left request files w, Outcome fault⟩
      (fun w' _ => w' = w.setFile item.path (files item.path))
      (fun w' _ => Kept request files lock w' ∧ ∃ path, fault (.readFile path)) w
      (restoreItem item) := by
  obtain ⟨hpair, hsaved⟩ := SecretRequest.mem_items.mp hitem
  have hpath : item.path ∈ request.paths.map Prod.snd := List.mem_map.mpr ⟨_, hpair, rfl⟩
  unfold restoreItem
  cases hfile : files item.path with
  | none =>
      rw [hfile, Option.map_none] at hsaved
      rw [hsaved]
      refine safe_bind.mpr (safe_readFile.mpr ⟨h.left, ?_, fun hf _ => ⟨h, _, hf⟩⟩)
      cases hfound : w.files item.path with
      | none =>
          show w = w.setFile item.path none
          rw [World.setFile, ← hfound, Function.update_eq_self]
      | some _ => exact safe_effect.mpr ⟨h.left, rfl⟩
  | some file =>
      rw [hfile, Option.map_some] at hsaved
      have hbackup : w.backup? item.role = some file.bytes := by
        rw [World.backup?, h.lock_eq, Option.bind_some, h.intact.backups _ hpair, hfile,
          Option.map_some]
      rw [hsaved]
      refine safe_bind.mpr (safe_readBackup.mpr ⟨h.left, ?_⟩)
      rw [hbackup]
      have hsha : ¬ hexdigest file.bytes ≠ (savedOf file).sha256 := not_not_intro rfl
      simp only [if_neg hsha]
      refine (safe_restoreCopy h file.bytes (savedOf file) hpath).bind ?_
      rintro w' _ rfl
      have hread : (w.setFile item.path (some file)).files item.path = some file :=
        Function.update_self _ _ _
      have h' : Kept request files lock (w.setFile item.path (some file)) := h.setFile hpath
      refine safe_bind.mpr (safe_readFile.mpr ⟨h'.left, ?_, fun hf _ => ⟨h', _, hf⟩⟩)
      have hverified : ¬ (some file).map (fun file => hexdigest file.bytes) ≠
          some (savedOf file).sha256 := not_not_intro rfl
      rw [savedOf_file, hread, if_neg hverified]
      exact rfl

/-- The items that are put back are as they were, and so is what was as it was. -/
lemma safe_restoreItems (h : Kept request files lock w) {items : List Snapshot}
    (hitems : ∀ item ∈ items, item ∈ request.items files) :
    Safe ⟨fun w _ => Left request files w, Outcome fault⟩
      (fun w' _ => Kept request files lock w' ∧ ∀ path,
        path ∈ items.map Snapshot.path ∨ w.files path = files path → w'.files path = files path)
      (fun w' _ => Kept request files lock w' ∧ ∃ path, fault (.readFile path)) w
      (forEach restoreItem items) := by
  induction items generalizing w with
  | nil => exact ⟨h, fun path hpath => by simpa using hpath⟩
  | cons item items ih =>
      have hitem := hitems item List.mem_cons_self
      have hpath : item.path ∈ request.paths.map Prod.snd :=
        List.mem_map.mpr ⟨_, (SecretRequest.mem_items.mp hitem).1, rfl⟩
      refine (safe_restoreItem h hitem).bind ?_
      rintro _ _ rfl
      refine (ih (h.setFile hpath) fun i hi => hitems i (List.mem_cons_of_mem _ hi)).bind ?_
      rintro w' _ ⟨hkept, hrest⟩
      refine ⟨hkept, fun path hdone => hrest path ?_⟩
      by_cases hsame : path = item.path
      · subst hsame
        exact .inr (Function.update_self _ _ _)
      · rcases hdone with hmem | hold
        · rcases List.mem_cons.mp hmem with heq | hmem
          · exact absurd heq hsame
          · exact .inl hmem
        · exact .inr ((Function.update_of_ne hsame _ _).trans hold)

/-- Restoring answers whether it put the files back, which only a fault prevents. -/
lemma safe_restoreSecretTransaction (h : Kept request files lock w) :
    Safe ⟨fun w _ => Left request files w, Outcome fault⟩
      (fun w' restored => Kept request files lock w' ∧
        (restored = true → w' = { files := files, lock := some lock }) ∧
        (restored = false → ∃ path, fault (.readFile path))) E w
      (restoreSecretTransaction (request.items files)) := by
  unfold restoreSecretTransaction
  rw [safe_tryCatch]
  refine safe_bind.mpr ((safe_restoreItems h fun _ hi => hi).mono ?_ ?_)
  · rintro w' _ ⟨hkept, hdone⟩
    refine ⟨hkept, fun _ => ?_, nofun⟩
    have hfiles : w'.files = files := by
      funext path
      by_cases hpath : path ∈ request.paths.map Prod.snd
      · refine hdone path (.inl ?_)
        obtain ⟨pair, hpair, rfl⟩ := List.mem_map.mp hpath
        exact List.mem_map.mpr ⟨_, List.mem_map_of_mem hpair, rfl⟩
      · exact hkept.framed path hpath
    rw [← hfiles, ← hkept.lock_eq]
  · rintro w' _ ⟨hkept, hfault⟩
    exact ⟨hkept, nofun, fun _ => hfault⟩

/-! ### The whole command -/

/-- The secret file as `set` writes it. -/
def SecretRequest.secretFile (request : SecretRequest) (files : String → Option FileState) :
    FileState where
  bytes := request.renderSecret (textOf (files request.secretPath))
  mode := 0o600
  uid := request.secretUid
  gid := request.secretGid

lemma SecretRequest.secretPath_mem (request : SecretRequest) :
    request.secretPath ∈ request.paths.map Prod.snd := by
  simp [SecretRequest.paths]

lemma safe_upsertRuntimeSecretFile (h : Kept request files lock w) :
    Safe ⟨fun w _ => Left request files w, Outcome fault⟩
      (fun w' _ => w' = w.setFile request.secretPath (some (request.secretFile w.files)))
      (fun w' _ => Kept request files lock w') w (upsertRuntimeSecretFile request) := by
  have hpath := request.secretPath_mem
  have h₁ : Kept request files lock ((Effect.createFile request.secretPath 0o600).apply w) :=
    h.createFile hpath
  have h₂ : Kept request files lock ((Effect.truncateFile request.secretPath).apply _) :=
    h₁.setFile hpath
  have h₃ : Kept request files lock ((Effect.writeFile request.secretPath
      (request.renderSecret (textOf (w.files request.secretPath)))).apply _) := h₂.setFile hpath
  have h₄ : Kept request files lock ((Effect.chownFile request.secretPath request.secretUid
      request.secretGid).apply _) := h₃.setFile hpath
  unfold upsertRuntimeSecretFile
  simp only [safe_bind, safe_effect, safe_outside, safe_readFile]
  exact ⟨h.left, ⟨h.left, ⟨h.left, ⟨h₁.left, ⟨h₁.left, h₂.left, h₃.left, h₄.left,
    apply_written _ _ _ _ _ _ _⟩, fun _ _ => h₁⟩⟩, fun _ _ => h⟩, fun _ _ => h⟩

/-- The `.env` is written where it is to be, and the files are then the new ones. -/
lemma safe_syncRuntimeComposeEnv (hintact : Intact request files lock) :
    Safe ⟨fun w _ => Left request files w, Outcome fault⟩
      (fun w' _ => w' = { files := request.newFiles files, lock := some lock })
      (fun w' _ => Kept request files lock w')
      { files := Function.update files request.secretPath (some (request.secretFile files))
        lock := some lock } (syncRuntimeComposeEnv request) := by
  have hstart : Kept request files lock ⟨files, some lock⟩ :=
    ⟨rfl, hintact, framed_of_settled (.inl rfl)⟩
  have h : Kept request files lock ⟨Function.update files request.secretPath
      (some (request.secretFile files)), some lock⟩ := hstart.setFile request.secretPath_mem
  unfold syncRuntimeComposeEnv
  by_cases hsyncs : request.syncsEnv = true
  · rw [if_pos hsyncs]
    simp only [safe_bind, safe_effect, safe_outside, safe_readFile]
    refine ⟨h.left, ⟨h.left, ⟨h.left, ?_⟩, fun _ _ => h⟩, fun _ _ => h⟩
    simp [Effect.apply, World.setFile, SecretRequest.newFiles, hsyncs, SecretRequest.secretFile]
  · rw [if_neg hsyncs]
    show World.mk _ _ = _
    simp [SecretRequest.newFiles, hsyncs, SecretRequest.secretFile]

/-- `Left` holds throughout the program and at its ends. -/
abbrev Leaves (request : SecretRequest) (files : String → Option FileState) (fault : Faults)
    (w : World) {α : Type} (p : Run α) : Prop :=
  Safe ⟨fun w _ => Left request files w, Outcome fault⟩ (fun w _ => Left request files w)
    (fun w _ => Left request files w) w p

lemma leaves_actionLog {α : Type} (h : Left request files w) {f : Unit → Run α}
    (hf : Leaves request files fault w (f ())) :
    Leaves request files fault w (Outside.actionLog.run >>= f) :=
  safe_bind.mpr (safe_outside.mpr ⟨h, hf, fun _ _ => h⟩)

lemma leaves_quietly (h : Left request files w) :
    Leaves request files fault w (quietly Outside.actionLog.run) := by
  unfold quietly
  exact safe_tryCatch.mpr (safe_outside.mpr ⟨h, h, fun _ _ => h⟩)

/-- The lock directory goes once the files are settled. -/
lemma leaves_removeTree {α : Type} {now : String → Option FileState} {f : Unit → Run α}
    (hintact : Intact request files lock) (hsettled : now = files ∨ now = request.newFiles files)
    (hf : Left request files ⟨now, none⟩ → Leaves request files fault ⟨now, none⟩ (f ())) :
    Leaves request files fault ⟨now, some lock⟩ (removeTree >>= f) := by
  have hstate : Settled request files ⟨now, some lock⟩ := hsettled
  refine (safe_removeTree rfl hintact.faithful hstate).bind ?_
  rintro _ _ rfl
  exact hf (.inl ⟨rfl, hsettled⟩)

lemma leaves_failAndRestore (h : Kept request files lock w) (code : Nat) :
    Leaves request files fault w (failAndRestore (request.items files) code) := by
  unfold failAndRestore
  refine (safe_restoreSecretTransaction h).bind ?_
  rintro w' restored ⟨hkept, hrestored, -⟩
  have hlog : ∀ {w : World}, Left request files w → Leaves request files fault w (do
      Outside.actionLog.run
      return if code = 0 then 1 else code) := fun h => leaves_actionLog h h
  cases restored with
  | false => exact hlog hkept.left
  | true =>
      obtain rfl := hrestored rfl
      -- whatever the recreation answers
      have hafter : ∀ recreated : Nat, Leaves request files fault ⟨files, some lock⟩ (do
          if true && recreated == 0 then
            removeTree
          Outside.actionLog.run
          return if code = 0 then 1 else code) := by
        intro recreated
        by_cases hzero : recreated = 0
        · subst hzero
          exact leaves_removeTree hkept.intact (.inl rfl) fun hleft => hlog hleft
        · have hne : (true && recreated == 0) = false := by simpa using hzero
          simp only [hne]
          exact hlog hkept.left
      refine safe_bind.mpr (safe_recreate.mpr ⟨hkept.left, hafter 0, fun _ => ⟨hafter, ?_⟩⟩)
      exact fun _ => hkept.left

lemma safe_runPhases {Q : World → Bool → Prop} (hleft : Left request files w)
    (hQ : ∀ passed, Q w passed) (n : Nat) :
    Safe ⟨fun w _ => Left request files w, Outcome fault⟩ Q (fun w _ => Left request files w) w
      (runPhases n) := by
  induction n with
  | zero => exact hQ true
  | succ n ih =>
      exact safe_bind.mpr (safe_phase.mpr ⟨hleft, ih, fun _ => ⟨hQ false, fun _ => hleft⟩⟩)

lemma leaves_activateSecret (hintact : Intact request files lock) :
    Leaves request files fault ⟨request.newFiles files, some lock⟩
      (activateSecret request (request.items files)) := by
  have hkept : Kept request files lock ⟨request.newFiles files, some lock⟩ :=
    ⟨rfl, hintact, framed_of_settled (.inr rfl)⟩
  have hdone : Leaves request files fault ⟨request.newFiles files, some lock⟩ (do
      Outside.actionLog.run
      removeTree
      return 0) :=
    leaves_actionLog hkept.left (leaves_removeTree hintact (.inr rfl) fun hleft => hleft)
  unfold activateSecret
  by_cases hno : request.noRestart = true
  · rw [if_pos hno]
    exact hdone
  · rw [if_neg hno]
    have hafter : ∀ code : Nat, Leaves request files fault ⟨request.newFiles files, some lock⟩
        (if code ≠ 0 then failAndRestore (request.items files) code
          else do
            let passed ← runPhases request.phases
            if !passed then
              failAndRestore (request.items files) 1
            else
              Outside.actionLog.run
              removeTree
              return 0) := by
      intro code
      by_cases hcode : code ≠ 0
      · rw [if_pos hcode]
        exact leaves_failAndRestore hkept code
      · rw [if_neg hcode]
        refine safe_bind.mpr (safe_runPhases hkept.left (fun passed => ?_) _)
        cases passed with
        | false => exact leaves_failAndRestore hkept 1
        | true => exact hdone
    exact safe_bind.mpr (safe_recreate.mpr ⟨hkept.left, hafter 0, fun _ =>
      ⟨hafter, fun _ => hkept.left⟩⟩)

/-- The outcome of a program, as a value. -/
lemma safe_attempt {α : Type} {pre : World → Op → Prop} {p : Run α}
    {Q : World → Except Raised α → Prop} {E : World → Raised → Prop} :
    Safe ⟨pre, Outcome fault⟩ Q E w (attempt p) ↔
      Safe ⟨pre, Outcome fault⟩ (fun w' a => Q w' (.ok a)) (fun w' e => Q w' (.error e)) w p := by
  unfold attempt
  rw [safe_tryCatch, safe_bind]
  rfl

/-- Wherever `set` stops, it leaves what `Left` says. -/
theorem leaves_cmdRuntimeSecretSet (hfiles : w.files = files) (hlock : w.lock = none) :
    Leaves request files fault w (cmdRuntimeSecretSet request) := by
  have hstart : Left request files w := .inl ⟨hlock, .inl hfiles⟩
  have hbegun : Safe ⟨fun w _ => Left request files w, Outcome fault⟩
      (fun w' items => items = request.items files ∧
        ∃ lock, w' = { w with lock := some lock } ∧ Intact request files lock)
      (fun w' _ => w' = w) w (do
        Outside.admission.run
        beginSecretTransaction request.paths) :=
    safe_bind.mpr (safe_outside.mpr ⟨hstart, safe_beginSecretTransaction hfiles hlock,
      fun _ _ => rfl⟩)
  unfold cmdRuntimeSecretSet
  refine safe_bind.mpr (safe_attempt.mpr (hbegun.mono ?_ ?_))
  · rintro _ items ⟨rfl, lock, rfl, hintact⟩
    have hkept : Kept request files lock { w with lock := some lock } :=
      ⟨rfl, hintact, framed_of_settled (.inl hfiles)⟩
    have hwritten : Safe ⟨fun w _ => Left request files w, Outcome fault⟩
        (fun w' _ => w' = { files := request.newFiles files, lock := some lock })
        (fun w' _ => Kept request files lock w') { w with lock := some lock } (do
          upsertRuntimeSecretFile request
          syncRuntimeComposeEnv request) := by
      refine (safe_upsertRuntimeSecretFile hkept).bind ?_
      rintro _ _ rfl
      have hnow : World.setFile { w with lock := some lock } request.secretPath
          (some (request.secretFile w.files)) =
          ⟨Function.update files request.secretPath (some (request.secretFile files)),
            some lock⟩ := by
        rw [World.setFile, hfiles]
      rw [hnow]
      exact safe_syncRuntimeComposeEnv hintact
    refine safe_bind.mpr (safe_attempt.mpr (hwritten.mono ?_ ?_))
    · rintro _ _ rfl
      exact leaves_activateSecret hintact
    · intro w' e hkept'
      refine (safe_restoreSecretTransaction hkept').bind ?_
      rintro w'' restored ⟨hkept'', hrestored, -⟩
      have hend : ∀ {w : World}, Left request files w → Leaves request files fault w (do
          quietly Outside.actionLog.run
          return 1) :=
        fun h => safe_bind.mpr ((leaves_quietly h).mono (fun _ _ h => h) fun _ _ h => h)
      cases restored with
      | false => exact hend hkept''.left
      | true =>
          obtain rfl := hrestored rfl
          exact leaves_removeTree hintact (.inl rfl) fun hleft => hend hleft
  · rintro _ e rfl
    exact safe_bind.mpr ((leaves_quietly hstart).mono (fun _ _ h => h) fun _ _ h => h)

end parts

/-! ## Recovery -/

/-- The manifest is whole, and every copy that it names is there. -/
def LockDir.usable (lock : LockDir) : Bool :=
  match lock.manifest with
  | some (.complete items) =>
      items.all fun item => item.saved.isNone || (lock.backups item.role).isSome
  | _ => false

/-- All that may fail in a recovery whose recreation succeeds. -/
def logFault : Faults := fun op => op = .outside .actionLog

/-- A recovery whose recreation succeeds puts the files back and removes the lock directory. -/
def RecoverRestores (files : String → Option FileState) (w : World) : Prop :=
  (∃ x w', Ends (Outcome logFault) cmdRuntimeSecretRecover w x w') ∧
    ∀ x w', Ends (Outcome logFault) cmdRuntimeSecretRecover w x w' →
      w' = { files := files, lock := none }

/-- The slot is free with both files old or both new, or a recovery frees it with both old. -/
def Recoverable (request : SecretRequest) (files : String → Option FileState) (w : World) : Prop :=
  (w.lock = none ∧ Settled request files w) ∨ RecoverRestores files w

/-- What is there of a usable lock directory is all of it. -/
lemma Faithful.intact (h : Faithful request files lock) (husable : lock.usable = true) :
    Intact request files lock := by
  unfold LockDir.usable at husable
  split at husable
  · rename_i items hmanifest
    obtain rfl := h.manifest items hmanifest
    refine ⟨hmanifest, fun item hitem => ?_⟩
    cases hbackup : lock.backups item.1 with
    | some bytes => exact (h.backups _ hmanifest item hitem bytes hbackup).symm
    | none =>
        have hall := List.all_eq_true.mp husable ⟨item.1, item.2, (files item.2).map savedOf⟩
          (List.mem_map_of_mem hitem)
        rw [hbackup, Option.isSome_none, Bool.or_false, Option.isNone_map,
          Option.isNone_iff_eq_none] at hall
        rw [hall, Option.map_none]
  · cases husable

/-- What the host answers where nothing fails. -/
def Op.exec : (op : Op) → World → Except Raised op.Res × World
  | .outside _, w => (.ok (), w)
  | .effect e, w => (.ok (), e.apply w)
  | .makeLock, w =>
      match w.lock with
      | none => (.ok (), { w with lock := some ⟨fun _ => none, none⟩ })
      | some _ => (.error .locked, w)
  | .readFile path, w => (.ok (w.files path), w)
  | .readManifest, w => (w.loadManifest, w)
  | .readBackup role, w => (.ok (w.backup? role), w)
  | .listLock, w =>
      (.ok ([.backup .secret, .backup .env, .manifest].filter fun entry =>
        w.lock.any (LockDir.has · entry)), w)
  | .recreate, w => (.ok 0, w)
  | .phase, w => (.ok true, w)

lemma outcome_exec (fault : Faults) (op : Op) (w : World) :
    Outcome fault w op (op.exec w).1 (op.exec w).2 := by
  cases op with
  | outside => exact ⟨rfl, .inl rfl⟩
  | effect => exact ⟨rfl, rfl⟩
  | makeLock =>
      cases hlock : w.lock with
      | none => simp [Outcome, Op.exec, hlock]
      | some lock => simp [Outcome, Op.exec, hlock]
  | readFile => exact ⟨rfl, .inl rfl⟩
  | readManifest => exact ⟨rfl, rfl⟩
  | readBackup => exact ⟨rfl, rfl⟩
  | listLock =>
      refine ⟨rfl, _, rfl, fun entry => ?_⟩
      have hentry : entry ∈ [Entry.backup .secret, .backup .env, .manifest] := by
        rcases entry with (_ | _) | _ <;> simp
      rw [List.mem_filter, Option.any_eq_true]
      exact ⟨fun h => h.2, fun h => ⟨hentry, h⟩⟩
  | recreate => exact ⟨rfl, .inl rfl⟩
  | phase => exact ⟨rfl, .inl rfl⟩

/-- A usable lock directory lets `recover` restore. -/
lemma recoverRestores_of_intact (h : Kept request files lock w) : RecoverRestores files w := by
  have hsafe : Safe ⟨fun w _ => Left request files w, Outcome logFault⟩
      (fun w' _ => w' = { files := files, lock := none }) (fun _ _ => False) w
      cmdRuntimeSecretRecover := by
    have hload : w.loadManifest = .ok (request.items files) := by
      obtain ⟨backups, manifest⟩ := lock
      obtain rfl : manifest = _ := h.intact.manifest
      rw [World.loadManifest, h.lock_eq]
    unfold cmdRuntimeSecretRecover
    refine safe_tryCatch.mpr (safe_bind.mpr (safe_outside.mpr ⟨h.left, ?_, nofun⟩))
    refine safe_bind.mpr (safe_readManifest.mpr ⟨h.left, ?_, ?_⟩)
    · rw [hload]
      rintro items ⟨⟩
      refine (safe_restoreSecretTransaction h).bind ?_
      rintro w' restored ⟨hkept, hrestored, hfault⟩
      cases restored with
      | false =>
          obtain ⟨path, hpath⟩ := hfault rfl
          cases hpath
      | true =>
          obtain rfl := hrestored rfl
          refine safe_bind.mpr (safe_recreate.mpr ⟨hkept.left, ?_, nofun⟩)
          refine (safe_removeTree rfl hkept.intact.faithful (.inl rfl)).bind ?_
          rintro _ _ rfl
          have hleft : Left request files ⟨files, none⟩ := .inl ⟨rfl, .inl rfl⟩
          exact safe_bind.mpr (safe_outside.mpr ⟨hleft, rfl, fun _ _ => rfl⟩)
    · rw [hload]
      exact nofun
  refine ⟨⟨_, _, ends_eval (outcome_exec logFault) _ w⟩, fun x w' hends => ?_⟩
  cases x with
  | ok code => exact hends.of_safe hsafe
  | error e => exact absurd (hends.of_safe_error hsafe) id

/-! ### Lock directories that cannot be used -/

section unusable

variable {fault : Faults}

/-- A file of a transaction is put back only from its copy, and the lock directory stays. -/
lemma safe_restoreItem_lock (hlock : w.lock = some lock) (item : Snapshot) :
    Safe ⟨fun _ _ => True, Outcome fault⟩
      (fun w' _ => w'.lock = some lock ∧ (item.saved.isNone || (lock.backups item.role).isSome))
      (fun w' _ => w'.lock = some lock) w (restoreItem item) := by
  have hcreate : ∀ path mode, ((Effect.createFile path mode).apply w).lock = some lock := by
    intro path mode
    simp only [Effect.apply]
    split
    · exact hlock
    · exact hlock
  unfold restoreItem
  cases hsaved : item.saved with
  | none =>
      refine safe_bind.mpr (safe_readFile.mpr ⟨trivial, ?_, fun _ _ => hlock⟩)
      cases w.files item.path with
      | none => exact ⟨hlock, rfl⟩
      | some _ => exact safe_effect.mpr ⟨trivial, hlock, rfl⟩
  | some saved =>
      refine safe_bind.mpr (safe_readBackup.mpr ⟨trivial, ?_⟩)
      have hread : w.backup? item.role = lock.backups item.role := by
        rw [World.backup?, hlock, Option.bind_some]
      rw [hread]
      cases lock.backups item.role with
      | none => exact hlock
      | some bytes =>
          by_cases hsha : hexdigest bytes ≠ saved.sha256
          · simp only [if_pos hsha]
            exact hlock
          · simp only [if_neg hsha]
            unfold restoreCopy
            simp only [safe_bind, safe_effect, safe_readFile, true_and]
            refine ⟨?_, fun _ _ => hcreate _ _⟩
            split
            · exact hcreate _ _
            · exact ⟨hcreate _ _, rfl⟩

/-- Without a usable lock directory `recover` leaves it as it is. -/
lemma safe_recover_unusable (hlock : w.lock = some lock) (hunusable : lock.usable = false) :
    Safe ⟨fun _ _ => True, Outcome fault⟩ (fun w' _ => w'.lock = some lock) (fun _ _ => False) w
      cmdRuntimeSecretRecover := by
  unfold cmdRuntimeSecretRecover
  refine safe_tryCatch.mpr (safe_bind.mpr (safe_outside.mpr ⟨trivial, ?_, fun _ _ => hlock⟩))
  refine safe_bind.mpr (safe_readManifest.mpr ⟨trivial, fun items hload => ?_, fun _ _ => hlock⟩)
  -- the manifest is whole, so a copy is missing
  have hmanifest : lock.manifest = some (.complete items) := by
    obtain ⟨backups, manifest⟩ := lock
    rw [World.loadManifest, hlock] at hload
    rcases manifest with _ | (_ | found)
    · cases hload
    · cases hload
    · cases hload
      rfl
  have hall : items.all (fun item =>
      item.saved.isNone || (lock.backups item.role).isSome) = false := by
    rw [LockDir.usable, hmanifest] at hunusable
    exact hunusable
  have hloop : ∀ (items : List Snapshot) (w : World), w.lock = some lock →
      Safe ⟨fun _ _ => True, Outcome fault⟩
        (fun w' _ => w'.lock = some lock ∧ items.all (fun item =>
          item.saved.isNone || (lock.backups item.role).isSome) = true)
        (fun w' _ => w'.lock = some lock) w (forEach restoreItem items) := by
    intro items
    induction items with
    | nil => exact fun w hw => ⟨hw, rfl⟩
    | cons item items ih =>
        intro w hw
        refine (safe_restoreItem_lock hw item).bind ?_
        rintro w' _ ⟨hw', hitem⟩
        refine (ih w' hw').bind ?_
        rintro w'' _ ⟨hw'', hitems⟩
        exact ⟨hw'', by rw [List.all_cons, hitem, hitems, Bool.and_self]⟩
  have hrestore : Safe ⟨fun _ _ => True, Outcome fault⟩
      (fun w' restored => w'.lock = some lock ∧ restored = false)
      (fun w' _ => w'.lock = some lock) w (restoreSecretTransaction items) := by
    unfold restoreSecretTransaction
    refine safe_tryCatch.mpr (safe_bind.mpr ((hloop items w hlock).mono ?_ ?_))
    · rintro w' _ ⟨-, hitems⟩
      rw [hall] at hitems
      cases hitems
    · exact fun w' _ hw' => ⟨hw', rfl⟩
  refine safe_bind.mpr (hrestore.mono ?_ fun _ _ h => h)
  rintro w' _ ⟨hw', rfl⟩
  exact hw'

lemma lock_of_recover_unusable (hlock : w.lock = some lock) (hunusable : lock.usable = false)
    {x : Except Raised Nat} {w' : World}
    (hends : Ends (Outcome fault) cmdRuntimeSecretRecover w x w') : w'.lock = some lock := by
  cases x with
  | ok code => exact hends.of_safe (safe_recover_unusable hlock hunusable)
  | error e => exact absurd (hends.of_safe_error (safe_recover_unusable hlock hunusable)) id

lemma not_recoverable_of_unusable (hlock : w.lock = some lock) (hunusable : lock.usable = false) :
    ¬ Recoverable request files w := by
  rintro (⟨hnone, -⟩ | ⟨⟨x, w', hends⟩, hall⟩)
  · rw [hnone] at hlock
    cases hlock
  · have hstays := lock_of_recover_unusable hlock hunusable hends
    rw [hall x w' hends] at hstays
    cases hstays

/-- `set` stops at a lock directory. -/
lemma safe_set_locked (hlock : w.lock = some lock) :
    Safe ⟨fun _ _ => True, Outcome fault⟩ (fun w' code => w' = w ∧ code = 1) (fun _ _ => False) w
      (cmdRuntimeSecretSet request) := by
  have hlog : Safe ⟨fun _ _ => True, Outcome fault⟩ (fun w' code => w' = w ∧ code = 1)
      (fun _ _ => False) w (do
        quietly Outside.actionLog.run
        return 1) := by
    unfold quietly
    exact safe_bind.mpr (safe_tryCatch.mpr (safe_outside.mpr
      ⟨trivial, ⟨rfl, rfl⟩, fun _ _ => ⟨rfl, rfl⟩⟩))
  unfold cmdRuntimeSecretSet
  refine safe_bind.mpr (safe_attempt.mpr (safe_bind.mpr (safe_outside.mpr
    ⟨trivial, ?_, fun _ _ => hlog⟩)))
  unfold beginSecretTransaction
  refine safe_bind.mpr (safe_perform.mpr ⟨trivial, ?_, ?_⟩)
  · intro _ w' hr
    simp only [Outcome, hlock] at hr
    cases hr.1
  · intro e w' hr
    simp only [Outcome, hlock] at hr
    obtain rfl := hr.2
    exact hlog

end unusable

/-- Wherever `set` is cut off, the slot can be recovered exactly if its lock directory, where there
is one, has its whole manifest and every copy that this names. -/
theorem secret_recoverable_iff {w₀ : World} (hlock : w₀.lock = none)
    (hstop : Stops (Outcome fun _ => True) (fun _ _ => True) (cmdRuntimeSecretSet request) w₀ w) :
    Recoverable request w₀.files w ↔ ∀ lock, w.lock = some lock → lock.usable = true := by
  have hleft : Left request w₀.files w := hstop.of_safe
    (safe_mono_pre (leaves_cmdRuntimeSecretSet rfl hlock) fun _ _ h _ => h)
  constructor
  · intro hrec lock hsome
    by_contra husable
    rw [Bool.not_eq_true] at husable
    exact not_recoverable_of_unusable hsome husable hrec
  · intro husable
    rcases hleft with hfree | ⟨lock, hsome, hfaithful, hframed⟩
    · exact .inl hfree
    · exact .inr (recoverRestores_of_intact
        ⟨hsome, hfaithful.intact (husable lock hsome), hframed⟩)

/-- A request for a new `API_SERVER_KEY`. -/
def sampleRequest : SecretRequest where
  secretPath := "/srv/slot/secrets.env"
  envPath := "/srv/slot/runtime/.env"
  syncsEnv := true
  secretUid := 0
  secretGid := 0
  envUid := 1001
  envGid := 1001
  renderSecret := fun _ => [75, 61, 50, 10]
  renderEnv := fun _ => [75, 61, 50, 10]
  noRestart := true
  phases := 0

/-- A slot with an old key and no `.env`. -/
def sampleSlot : World where
  files := Function.update (fun _ => none) "/srv/slot/secrets.env"
    (some { bytes := [75, 61, 49, 10], mode := 0o600, uid := 0, gid := 0 })
  lock := none

/-- The slot where the first `n` steps of the request are done. -/
def sampleCutOff (n : Nat) : Option (Op × World) :=
  nextAfter Op.exec n (cmdRuntimeSecretSet sampleRequest) sampleSlot

lemma stops_sampleCutOff {n : Nat} {op : Op} (h : sampleCutOff n = some (op, w)) :
    Stops (Outcome fun _ => True) (fun _ _ => True) (cmdRuntimeSecretSet sampleRequest)
      sampleSlot w :=
  .inr ⟨op, trivial, interrupted_of_nextAfter (outcome_exec _) h⟩

/-- Cut off when the secret file is empty, the slot can be recovered. -/
theorem emptied_secret_recoverable : ∃ w, Stops (Outcome fun _ => True) (fun _ _ => True)
    (cmdRuntimeSecretSet sampleRequest) sampleSlot w ∧
    (w.files "/srv/slot/secrets.env").map FileState.bytes = some [] ∧
    Recoverable sampleRequest sampleSlot.files w := by
  have hcheck : (sampleCutOff 13).any (fun cut =>
      (cut.2.files "/srv/slot/secrets.env").map FileState.bytes == some [] &&
        cut.2.lock.all LockDir.usable) = true := by
    decide
  obtain ⟨⟨op, w⟩, hcut, hw⟩ := Option.any_eq_true _ _ |>.mp hcheck
  rw [Bool.and_eq_true, beq_iff_eq] at hw
  have hstop := stops_sampleCutOff hcut
  refine ⟨w, hstop, hw.1, (secret_recoverable_iff rfl hstop).mpr fun lock hlock => ?_⟩
  simpa [hlock] using hw.2

/-- Cut off when the lock directory is just made, the slot can not be recovered: neither `set` nor
`recover` gets past the lock. -/
theorem bare_lock_unrecoverable : ∃ w, Stops (Outcome fun _ => True) (fun _ _ => True)
    (cmdRuntimeSecretSet sampleRequest) sampleSlot w ∧
    ¬ Recoverable sampleRequest sampleSlot.files w ∧
    (∀ x w', Ends (Outcome fun _ => False) cmdRuntimeSecretRecover w x w' → w'.lock = w.lock) ∧
    ∀ x w', Ends (Outcome fun _ => False) (cmdRuntimeSecretSet sampleRequest) w x w' →
      x = .ok 1 ∧ w' = w := by
  have hcheck : (sampleCutOff 2).any (fun cut =>
      cut.2.lock.any fun lock => !lock.usable) = true := by
    decide
  obtain ⟨⟨op, w⟩, hcut, hw⟩ := Option.any_eq_true _ _ |>.mp hcheck
  obtain ⟨lock, hlock, husable⟩ := Option.any_eq_true _ _ |>.mp hw
  rw [Bool.not_eq_true'] at husable
  refine ⟨w, stops_sampleCutOff hcut, not_recoverable_of_unusable hlock husable,
    fun x w' hends => ?_, fun x w' hends => ?_⟩
  · rw [lock_of_recover_unusable hlock husable hends]
    exact hlock.symm
  · cases x with
    | ok code =>
        obtain ⟨rfl, rfl⟩ := hends.of_safe (safe_set_locked hlock)
        exact ⟨rfl, rfl⟩
    | error e => exact absurd (hends.of_safe_error (safe_set_locked hlock)) id

end AgentRuntimeOps.Secret
