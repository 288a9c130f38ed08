import AgentRuntimeOps.BackupRoot.Publication

/-!
# The three publishers

One lemma for each function that publishes in the backup root: what it leaves when it returns, when
it raises (and why), and wherever it is cut off.

* `safe_backupAgentRuntimeState` and `safe_publishLegacyBackup` leave `Progress`.
* `safe_recoverInterrupted` leaves the residue where it was, or under a new canonical name (`Moved`).
-/

namespace AgentRuntimeOps.BackupRoot

open AgentRuntimeOps.Lib Program
open AgentRuntimeOps.Runtime (Managed BackupName Digest FileState maxArtifactBytes nextBackupName)

variable [SourceIdentity]

variable {fault : Faults} {w : World} {name : BackupName} {staging : Nat} {d : Dir}
  {kind : Dir → Prop}

/-! ## Renaming back -/

/-- A check of a directory that was just renamed: it stays, or goes back to where it was. -/
lemma safe_confirmOrRollBack {pre : World → Op → Prop} {Q : World → Unit → Prop}
    {E : World → Raised → Prop} {target back : EntryName} {check : Run Unit} {w₁ w₂ : World}
    (hcheck : Safe ⟨pre, Outcome fault⟩ Q (fun w' e => w' = w₁ ∧ E w₁ e ∧ ∀ e, E w₂ e) w₁ check)
    (hrename : w₁.rename target back = (.ok (), w₂)) (hpre₁ : pre w₁ (.rename target back))
    (hpre₂ : pre w₂ (.outside .fsync)) (hE : Faulty fault → E w₁ .rollbackFailed) :
    Safe ⟨pre, Outcome fault⟩ Q E w₁ (confirmOrRollBack target back check) := by
  unfold confirmOrRollBack
  refine safe_tryCatch.mpr (hcheck.mono (fun _ _ h => h) ?_)
  rintro _ e ⟨rfl, -, hback⟩
  refine safe_bind.mpr (safe_tryCatch.mpr (safe_bind.mpr (safe_rename.mpr ⟨hpre₁, ?_, ?_, ?_⟩)))
  · rw [hrename]
    exact fun _ => safe_outside.mpr ⟨hpre₂, hback _, fun _ _ => hback _⟩
  · rw [hrename]
    exact nofun
  · exact fun hf => hE ⟨_, hf⟩

/-! ## A legacy backup -/

/-- `_validate_backup_integrity` accepts the directory. -/
def Dir.Valid (d : Dir) : Prop :=
  ∃ metadata, d.metadata = .valid metadata ∧ d.intact metadata = true

omit [SourceIdentity] in
lemma World.validate_of_valid (h : w.entries (.backup name) = some (.dir d)) (hd : d.Valid) :
    ∃ metadata, w.validate name = .ok metadata ∧ d.metadata = .valid metadata := by
  obtain ⟨metadata, hmetadata, hintact⟩ := hd
  refine ⟨metadata, ?_, hmetadata⟩
  unfold World.validate
  simp only [h, hmetadata, hintact, if_true]

/-- `_publish_legacy_backup`. -/
lemma safe_publishLegacyBackup (stateManifestPath : List Nat) (tries : Nat) (source : Source) :
    Safe ⟨At w (· = source.dir stateManifestPath), Outcome fault⟩
      (fun w' published => w.Fresh published ∧
        w' = w.withBackup published (.dir (source.dir stateManifestPath)) ∧ w.Readable [])
      (fun w' _ => Progress w (· = source.dir stateManifestPath) w' ∧
        (Faulty fault ∨ ¬ w.Readable [] ∨ tries = 0 ∨ ¬ (source.dir stateManifestPath).Valid))
      w (publishLegacyBackup stateManifestPath tries source) := by
  unfold publishLegacyBackup
  refine safe_bind.mpr ((safe_nextBackupPath (by simp) ⟨.unchanged, trivial⟩).mono ?_ ?_)
  case refine_2 =>
    rintro _ _ ⟨rfl, hcause | hcause⟩
    · exact ⟨.unchanged, .inl hcause⟩
    · exact ⟨.unchanged, .inr (.inl hcause)⟩
  rintro w target ⟨rfl, hfresh, -, hreadable⟩
  refine safe_bind.mpr (safe_makeStaging.mpr ⟨⟨.unchanged, trivial⟩, ?_,
    fun hf _ => ⟨.unchanged, .inl ⟨_, hf⟩⟩⟩)
  intro staging hfree
  refine safe_bind.mpr (safe_outside.mpr ⟨⟨.staged staging emptyDir hfree, trivial⟩, ?_,
    fun hf _ => ⟨.staged staging emptyDir hfree, .inl ⟨_, hf⟩⟩⟩)
  -- whatever raises from here on, the staging directory is removed if it can be
  refine safe_tryCatch.mpr (Safe.mono (Q := fun w' published => published = target ∧
      w' = w.withBackup target (.dir (source.dir stateManifestPath)))
    (E := fun w' _ => ((∃ d, w' = w.withStaging staging d) ∨
        w' = w.withBackup target (.dir (source.dir stateManifestPath))) ∧
      (Faulty fault ∨ tries = 0 ∨ ¬ (source.dir stateManifestPath).Valid)) ?_ ?_ ?_)
  case refine_2 =>
    rintro _ _ ⟨rfl, rfl⟩
    exact ⟨hfresh, rfl, hreadable⟩
  case refine_3 =>
    rintro w' e ⟨hw', hcause⟩
    refine safe_bind.mpr (safe_giveUp w' ?_ hfree fun w'' hprogress => ⟨hprogress, ?_⟩)
    · rcases hw' with hstaged | hpublished
      · exact .inr (.inl hstaged)
      · exact .inr (.inr ⟨target, _, rfl, hfresh, hpublished⟩)
    · rcases hcause with h | h | h
      · exact .inl h
      · exact .inr (.inr (.inl h))
      · exact .inr (.inr (.inr h))
  refine safe_bind.mpr ((safe_stageSource source stateManifestPath hfree).mono ?_ ?_)
  case refine_2 => exact fun _ _ h => ⟨.inl h.1, .inl h.2⟩
  rintro _ _ rfl
  refine safe_bind.mpr ((safe_renameStaged hfree hfresh source.backupName tries).mono ?_ ?_)
  case refine_2 =>
    rintro _ _ ⟨rfl, hcause | hcause⟩
    · exact ⟨.inl ⟨_, rfl⟩, .inl hcause⟩
    · exact ⟨.inl ⟨_, rfl⟩, .inr (.inl hcause)⟩
  rintro _ target ⟨rfl, rfl⟩
  have hpublished : Progress w (· = source.dir stateManifestPath)
      (w.withBackup target (.dir (source.dir stateManifestPath))) :=
    .published target _ rfl hfresh
  refine safe_bind.mpr (safe_confirmOrRollBack ?_ (rename_back hfree hfresh)
    ⟨hpublished, trivial⟩ ⟨.staged staging _ hfree, trivial⟩ fun hf => ⟨.inr rfl, .inl hf⟩)
  refine safe_bind.mpr (safe_outside.mpr ⟨⟨hpublished, trivial⟩, ?_,
    fun hf _ => ⟨rfl, ⟨.inr rfl, .inl ⟨_, hf⟩⟩, fun _ => ⟨.inl ⟨_, rfl⟩, .inl ⟨_, hf⟩⟩⟩⟩)
  refine safe_bind.mpr (safe_validate.mpr ⟨⟨hpublished, trivial⟩, fun _ _ => ⟨rfl, rfl⟩, ?_⟩)
  intro e he
  have hcause : Faulty fault ∨ tries = 0 ∨ ¬ (source.dir stateManifestPath).Valid := by
    rcases he with he | hf
    · refine .inr (.inr fun hvalid => ?_)
      obtain ⟨metadata, hok, -⟩ := World.validate_of_valid World.withBackup_self hvalid
      rw [hok] at he
      cases he
    · exact .inl ⟨_, hf⟩
  exact ⟨rfl, ⟨.inr rfl, hcause⟩, fun _ => ⟨.inl ⟨_, rfl⟩, hcause⟩⟩

/-! ## A backup of the runtime -/

/-- `backup.json` of a backup of these files. -/
def runtimeMetadata (createdAt stateManifestPath : List Nat) (files : Managed → Option FileState) :
    Metadata where
  createdAt := createdAt
  hadCompose := (files .compose).isSome
  hadManifest := (files .manifest).isSome
  hadStateManifest := (files .stateManifest).isSome
  hadEnv := some (files .env).isSome
  envGid := (files .env).map FileState.gid
  envMode := (files .env).map FileState.mode
  envUid := (files .env).map FileState.uid
  stateManifestPath := stateManifestPath
  artifactDigest file := (files file).map fun state => sha256Bytes state.bytes
  legacySource := none

/-- The backup of these files. -/
def runtimeDir (createdAt stateManifestPath : List Nat) (files : Managed → Option FileState) :
    Dir where
  controlled := true
  metadata := .valid (runtimeMetadata createdAt stateManifestPath files)
  artifact file := (files file).map FileState.bytes
  diagnostics _ := none

/-- Every file is small enough for a backup. -/
def SmallFiles (files : Managed → Option FileState) : Prop :=
  ∀ file state, files file = some state → state.bytes.length ≤ maxArtifactBytes

omit [SourceIdentity] in
lemma sha256File_ok {found : Option FileState} {digest : Option Digest}
    (h : sha256File found = .ok digest) :
    digest = found.map (fun state => sha256Bytes state.bytes) ∧
      ∀ state, found = some state → state.bytes.length ≤ maxArtifactBytes := by
  unfold sha256File at h
  split at h
  · cases h
    exact ⟨rfl, nofun⟩
  · rename_i state
    split_ifs at h with hsmall
    · cases h
      refine ⟨rfl, ?_⟩
      rintro _ ⟨⟩
      exact hsmall

omit [SourceIdentity] in
lemma sha256File_error {found : Option FileState} {e : Raised} (h : sha256File found = .error e) :
    ∃ state, found = some state ∧ maxArtifactBytes < state.bytes.length := by
  unfold sha256File at h
  split at h
  · cases h
  · rename_i state
    split_ifs at h with hsmall
    exact ⟨state, rfl, not_le.mp hsmall⟩

lemma safe_stageFile {file : Managed} {found : Option FileState} (hnone : d.artifact file = none)
    (hfree : w.entries (.staging staging) = none) :
    Safe ⟨At w kind, Outcome fault⟩
      (fun w' _ => w' = w.withStaging staging { d with
        artifact := Function.update d.artifact file (found.map FileState.bytes) })
      (fun w' _ => PartlyStaged w staging w' ∧ Faulty fault)
      (w.withStaging staging d) (stageFile staging file found) := by
  cases found with
  | none =>
      have hsame : Function.update d.artifact file none = d.artifact := by
        rw [← hnone, Function.update_eq_self]
      show _ = w.withStaging staging { d with artifact := Function.update d.artifact file none }
      rw [hsame]
  | some state =>
      refine safe_writeArtifact.mpr ⟨⟨.staged staging d hfree, trivial⟩, ?_, fun hf d' e => ?_⟩
      · rw [World.mapStaging_withStaging]
        rfl
      · rw [World.mapStaging_withStaging]
        exact ⟨⟨d', rfl⟩, _, hf⟩

/-- The digest of a staged file. -/
lemma safe_sha256File {pre : World → Op → Prop} {Q : World → Option Digest → Prop}
    {E : World → Raised → Prop} {found : Option FileState}
    (hQ : (∀ state, found = some state → state.bytes.length ≤ maxArtifactBytes) →
      Q w (found.map fun state => sha256Bytes state.bytes))
    (hE : (∃ state, found = some state ∧ maxArtifactBytes < state.bytes.length) → ∀ e, E w e) :
    Safe ⟨pre, Outcome fault⟩ Q E w (Program.ofExcept (sha256File found)) := by
  refine safe_ofExcept.mpr ⟨fun digest hdigest => ?_, fun e he => hE (sha256File_error he) e⟩
  obtain ⟨rfl, hsmall⟩ := sha256File_ok hdigest
  exact hQ hsmall

/-- The runtime is staged, or a write fails or a file is too large. -/
lemma safe_stageRuntime (createdAt stateManifestPath : List Nat)
    (files : Managed → Option FileState) (hfree : w.entries (.staging staging) = none) :
    Safe ⟨At w kind, Outcome fault⟩
      (fun w' _ => SmallFiles files ∧
        w' = w.withStaging staging (runtimeDir createdAt stateManifestPath files))
      (fun w' _ => PartlyStaged w staging w' ∧ (Faulty fault ∨ ¬ SmallFiles files))
      (w.withStaging staging emptyDir)
      (stageRuntime staging createdAt stateManifestPath (files .compose) (files .manifest)
        (files .stateManifest) (files .env)) := by
  have hlarge : ∀ {d : Dir} {file : Managed},
      (∃ state, files file = some state ∧ maxArtifactBytes < state.bytes.length) → ∀ _ : Raised,
        PartlyStaged w staging (w.withStaging staging d) ∧ (Faulty fault ∨ ¬ SmallFiles files) :=
    fun ⟨state, hstate, hlt⟩ _ =>
      ⟨⟨_, rfl⟩, .inr fun h => not_lt.mpr (h _ state hstate) hlt⟩
  have hfault : ∀ (w' : World) (_ : Raised), PartlyStaged w staging w' ∧ Faulty fault →
      PartlyStaged w staging w' ∧ (Faulty fault ∨ ¬ SmallFiles files) :=
    fun _ _ h => ⟨h.1, .inl h.2⟩
  unfold stageRuntime
  refine safe_bind.mpr ((safe_stageFile rfl hfree).mono ?_ hfault)
  rintro _ _ rfl
  refine safe_bind.mpr ((safe_stageFile rfl hfree).mono ?_ hfault)
  rintro _ _ rfl
  refine safe_bind.mpr ((safe_stageFile rfl hfree).mono ?_ hfault)
  rintro _ _ rfl
  refine safe_bind.mpr ((safe_stageFile rfl hfree).mono ?_ hfault)
  rintro _ _ rfl
  refine safe_bind.mpr (safe_sha256File (fun hmanifest => ?_) hlarge)
  refine safe_bind.mpr (safe_sha256File (fun henv => ?_) hlarge)
  refine safe_bind.mpr (safe_sha256File (fun hcompose => ?_) hlarge)
  refine safe_bind.mpr (safe_sha256File (fun hstateManifest => ?_) hlarge)
  refine safe_bind.mpr (safe_writeMetadata.mpr ⟨⟨.staged staging _ hfree, trivial⟩, ?_,
    fun hf d' e => ?_⟩)
  · rw [World.mapStaging_withStaging]
    refine safe_outside.mpr ⟨⟨.staged staging _ hfree, trivial⟩, ⟨?_, ?_⟩,
      fun hf _ => ⟨⟨_, rfl⟩, .inl ⟨_, hf⟩⟩⟩
    · intro file state hstate
      cases file with
      | manifest => exact hmanifest state hstate
      | compose => exact hcompose state hstate
      | stateManifest => exact hstateManifest state hstate
      | env => exact henv state hstate
    · unfold runtimeDir runtimeMetadata emptyDir
      congr 4
      · funext file
        cases file <;> rfl
      · funext file
        cases file <;> rfl
  · rw [World.mapStaging_withStaging]
    exact ⟨⟨d', rfl⟩, .inl ⟨_, hf⟩⟩

/-- Backups of these files, whenever they are made. -/
def RuntimeBackup (stateManifestPath : List Nat) (files : Managed → Option FileState) (d : Dir) :
    Prop :=
  SmallFiles files ∧ ∃ createdAt, d = runtimeDir createdAt stateManifestPath files

/-- `backup_agent_runtime_state`. -/
lemma safe_backupAgentRuntimeState (stateManifestPath : List Nat) (tries : Nat) :
    Safe ⟨At w (RuntimeBackup stateManifestPath w.runtime), Outcome fault⟩
      (fun w' published => w.Fresh published ∧ ∃ d,
        RuntimeBackup stateManifestPath w.runtime d ∧ w' = w.withBackup published (.dir d))
      (fun w' _ => Progress w (RuntimeBackup stateManifestPath w.runtime) w' ∧
        (Faulty fault ∨ w.pending ≠ none ∨ ¬ w.Readable [] ∨ tries = 0 ∨ ¬ SmallFiles w.runtime))
      w (backupAgentRuntimeState stateManifestPath tries) := by
  have hstart : ∀ {op : Op}, op.InOrder w →
      At w (RuntimeBackup stateManifestPath w.runtime) w op := fun hop => ⟨.unchanged, hop⟩
  unfold backupAgentRuntimeState
  refine safe_bind.mpr (safe_outside.mpr ⟨hstart trivial, ?_,
    fun hf _ => ⟨.unchanged, .inl ⟨_, hf⟩⟩⟩)
  refine safe_bind.mpr (safe_pending.mpr ⟨hstart trivial, ?_,
    fun hf _ => ⟨.unchanged, .inl ⟨_, hf⟩⟩⟩)
  cases hpending : w.pending with
  | some pending => exact ⟨.unchanged, .inr (.inl (by simp))⟩
  | none =>
  refine safe_bind.mpr (safe_now.mpr ⟨hstart trivial, fun t => ?_⟩)
  refine safe_bind.mpr ((safe_nextBackupPath (by simp) (hstart trivial)).mono ?_ ?_)
  case refine_2 =>
    rintro w' _ ⟨rfl, hcause | hcause⟩
    · exact ⟨.unchanged, .inl hcause⟩
    · exact ⟨.unchanged, .inr (.inr (.inl hcause))⟩
  rintro w target ⟨rfl, hfresh, -, -⟩
  refine safe_bind.mpr (safe_readFile.mpr ⟨hstart trivial, ?_,
    fun hf _ => ⟨.unchanged, .inl ⟨_, hf⟩⟩⟩)
  refine safe_bind.mpr (safe_nowIso.mpr ⟨hstart trivial, fun createdAt => ?_⟩)
  refine safe_bind.mpr (safe_readFile.mpr ⟨hstart trivial, ?_,
    fun hf _ => ⟨.unchanged, .inl ⟨_, hf⟩⟩⟩)
  refine safe_bind.mpr (safe_readFile.mpr ⟨hstart trivial, ?_,
    fun hf _ => ⟨.unchanged, .inl ⟨_, hf⟩⟩⟩)
  refine safe_bind.mpr (safe_readFile.mpr ⟨hstart trivial, ?_,
    fun hf _ => ⟨.unchanged, .inl ⟨_, hf⟩⟩⟩)
  refine safe_bind.mpr (safe_makeStaging.mpr ⟨hstart trivial, ?_,
    fun hf _ => ⟨.unchanged, .inl ⟨_, hf⟩⟩⟩)
  intro staging hfree
  refine safe_bind.mpr (safe_outside.mpr ⟨⟨.staged staging emptyDir hfree, trivial⟩, ?_,
    fun hf _ => ⟨.staged staging emptyDir hfree, .inl ⟨_, hf⟩⟩⟩)
  refine safe_tryCatch.mpr (Safe.mono (Q := fun w' published => published = target ∧ ∃ d,
      RuntimeBackup stateManifestPath w.runtime d ∧ w' = w.withBackup target (.dir d))
    (E := fun w' _ => (PartlyStaged w staging w' ∨
        ∃ d, RuntimeBackup stateManifestPath w.runtime d ∧ w' = w.withBackup target (.dir d)) ∧
      (Faulty fault ∨ tries = 0 ∨ ¬ SmallFiles w.runtime)) ?_ ?_ ?_)
  case refine_2 =>
    rintro _ _ ⟨rfl, hd⟩
    exact ⟨hfresh, hd⟩
  case refine_3 =>
    rintro w' e ⟨hw', hcause⟩
    refine safe_bind.mpr (safe_giveUp w' ?_ hfree fun w'' hprogress => ⟨hprogress, ?_⟩)
    · rcases hw' with hstaged | ⟨d, hd, hpublished⟩
      · exact .inr (.inl hstaged)
      · exact .inr (.inr ⟨target, d, hd, hfresh, hpublished⟩)
    · rcases hcause with h | h | h
      · exact .inl h
      · exact .inr (.inr (.inr (.inl h)))
      · exact .inr (.inr (.inr (.inr h)))
  refine safe_bind.mpr ((safe_stageRuntime createdAt stateManifestPath w.runtime hfree).mono ?_ ?_)
  case refine_2 =>
    rintro _ _ ⟨hstaged, hcause | hcause⟩
    · exact ⟨.inl hstaged, .inl hcause⟩
    · exact ⟨.inl hstaged, .inr (.inr hcause)⟩
  rintro _ _ ⟨hsmall, rfl⟩
  refine safe_bind.mpr ((safe_renameStaged hfree hfresh _ tries).mono ?_ ?_)
  case refine_2 =>
    rintro _ _ ⟨rfl, hcause | hcause⟩
    · exact ⟨.inl ⟨_, rfl⟩, .inl hcause⟩
    · exact ⟨.inl ⟨_, rfl⟩, .inr (.inl hcause)⟩
  rintro _ target ⟨rfl, rfl⟩
  have hbackup : RuntimeBackup stateManifestPath w.runtime
      (runtimeDir createdAt stateManifestPath w.runtime) := ⟨hsmall, createdAt, rfl⟩
  exact safe_bind.mpr (safe_outside.mpr ⟨⟨.published target _ hbackup hfresh, trivial⟩,
    ⟨rfl, _, hbackup, rfl⟩, fun hf _ => ⟨.inr ⟨_, hbackup, rfl⟩, .inl ⟨_, hf⟩⟩⟩)

/-! ## Residue of the old publisher -/

/-- The residue is where it was, or under a new canonical name. -/
inductive Moved (w : World) (entry : EntryName) : World → Prop where
  | unchanged : Moved w entry w
  | moved (name : BackupName) (node : Node) (hentry : w.entries entry = some node)
      (hfresh : w.Fresh name) : Moved w entry ((w.setEntry entry none).withBackup name node)

omit [SourceIdentity] in
/-- The canonical name is new, so nothing is replaced. -/
lemma rename_residue {source : BackupName} {retry : Nat} {node : Node}
    (hentry : w.entries (.nested source retry) = some node) (hfresh : w.Fresh name) :
    w.rename (.nested source retry) (.backup name) =
      (.ok (), (w.setEntry (.nested source retry) none).withBackup name node) := by
  unfold World.rename
  rw [hentry, hfresh.absent]
  rfl

omit [SourceIdentity] in
lemma rename_residue_back {source : BackupName} {retry : Nat} {node : Node}
    (hentry : w.entries (.nested source retry) = some node) (hfresh : w.Fresh name) :
    ((w.setEntry (.nested source retry) none).withBackup name node).rename (.backup name)
      (.nested source retry) = (.ok (), w) := by
  have hnested : ((w.setEntry (.nested source retry) none).withBackup name node).entries
      (.nested source retry) = none := by
    simp [World.withBackup, World.setEntry]
  have hback : (((w.setEntry (.nested source retry) none).withBackup name node).setEntry
      (.backup name) none).setEntry (.nested source retry) (some node) = w := by
    have hrestored : Function.update (Function.update (Function.update (Function.update w.entries
        (.nested source retry) none) (.backup name) (some node)) (.backup name) none)
        (.nested source retry) (some node) = w.entries := by
      funext entry
      by_cases hn : entry = .nested source retry
      · subst hn
        simp [hentry]
      · by_cases hb : entry = .backup name
        · subst hb
          simp [hfresh.absent]
        · simp [hn, hb]
    simp only [World.withBackup, World.setEntry, hrestored]
  unfold World.rename
  rw [World.withBackup_self, hnested]
  simp only [hback]

omit [SourceIdentity] in
lemma World.loadMetadata_ok {entry : EntryName} {metadata : Metadata}
    (h : w.loadMetadata entry = .ok metadata) :
    ∃ d, w.entries entry = some (.dir d) ∧ d.metadata = .valid metadata := by
  unfold World.loadMetadata at h
  split at h
  · rename_i hentry
    cases h
    exact ⟨_, hentry, rfl⟩
  · cases h

/-- One round of `_recover_interrupted_legacy_publications`. -/
lemma safe_recoverInterrupted {ignored : List EntryName} (hignored : ∀ n, .backup n ∉ ignored)
    (source : BackupName) (retry : Nat) :
    Safe ⟨fun w' op => Moved w (.nested source retry) w' ∧ op.InOrder w', Outcome fault⟩
      (fun w' _ => Moved w (.nested source retry) w')
      (fun w' _ => Moved w (.nested source retry) w') w
      (recoverInterrupted ignored source retry) := by
  unfold recoverInterrupted
  refine safe_bind.mpr (safe_loadMetadata.mpr ⟨⟨.unchanged, trivial⟩, ?_, fun _ _ => .unchanged⟩)
  intro candidate hcandidate
  obtain ⟨d, hentry, -⟩ := World.loadMetadata_ok hcandidate
  refine safe_bind.mpr (safe_ofExcept.mpr ⟨fun _ _ => ?_, fun _ _ => .unchanged⟩)
  refine safe_bind.mpr ((safe_nextBackupPath hignored ⟨.unchanged, trivial⟩).mono ?_ ?_)
  case refine_2 =>
    rintro _ _ ⟨rfl, -⟩
    exact .unchanged
  rintro w target ⟨rfl, hfresh, -, -⟩
  have hmoved := Moved.moved target (.dir d) hentry hfresh
  refine safe_bind.mpr (safe_rename.mpr ⟨⟨.unchanged, hfresh⟩, ?_, ?_, fun _ => .unchanged⟩)
  case refine_2 =>
    rw [rename_residue hentry hfresh]
    exact nofun
  rw [rename_residue hentry hfresh]
  intro _
  refine safe_bind.mpr (safe_outside.mpr ⟨⟨hmoved, trivial⟩, ?_, fun _ _ => hmoved⟩)
  refine safe_bind.mpr (safe_confirmOrRollBack ?_ (rename_residue_back hentry hfresh)
    ⟨hmoved, trivial⟩ ⟨.unchanged, trivial⟩ fun _ => hmoved)
  refine safe_bind.mpr (safe_validate.mpr ⟨⟨hmoved, trivial⟩, ?_,
    fun _ _ => ⟨rfl, hmoved, fun _ => .unchanged⟩⟩)
  intro metadata _
  exact safe_ofExcept.mpr ⟨fun _ _ => hmoved, fun _ _ => ⟨rfl, hmoved, fun _ => .unchanged⟩⟩

/-- `_recover_interrupted_legacy_publications` keeps what moving residue keeps. -/
lemma safe_recoverInterruptedLegacyPublications {I : World → Prop}
    (hinv : ∀ w w' source retry, I w → Moved w (.nested source retry) w' → I w')
    (hw : I w) :
    Safe ⟨fun w' op => I w' ∧ op.InOrder w', Outcome fault⟩ (fun w' _ => I w')
      (fun w' _ => I w') w recoverInterruptedLegacyPublications := by
  unfold recoverInterruptedLegacyPublications
  refine safe_bind.mpr (safe_listRoot.mpr ⟨⟨hw, trivial⟩, fun entries _ => ?_, fun _ _ => hw⟩)
  refine safe_bind.mpr (safe_ofExcept.mpr ⟨fun interrupted _ => ?_, fun _ _ => hw⟩)
  refine safe_forEach (fun item _ w hw => ?_) hw
  refine (safe_mono_pre (safe_recoverInterrupted (by simp) item.1 item.2) ?_).mono ?_ ?_
  · exact fun w' op h => ⟨hinv w w' _ _ hw h.1, h.2⟩
  · exact fun w' _ h => hinv w w' _ _ hw h
  · exact fun w' _ h => hinv w w' _ _ hw h

end AgentRuntimeOps.BackupRoot
