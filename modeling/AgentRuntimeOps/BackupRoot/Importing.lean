import AgentRuntimeOps.BackupRoot.Order

/-!
# Importing the legacy backups

However often `import_legacy_agent_runtime_backups` runs on a legacy root that does not change, and
wherever it raises or is cut off, a source has one import at most (`Mirrors`).  A run that returns
leaves one for each source, and then a further run does nothing.
-/

namespace AgentRuntimeOps.BackupRoot

open AgentRuntimeOps.Lib Program
open AgentRuntimeOps.Runtime (Managed BackupName Digest FileState)

/-! ## Imports in the root -/

/-- The source that a directory says it was imported from. -/
def Dir.importOf (d : Dir) : Option BackupName :=
  match d.metadata with
  | .valid metadata => metadata.legacySource.map LegacySource.backupName
  | _ => none

/-- An entry outside of the staging directories that is an import of that source. -/
def World.ImportAt (w : World) (name : BackupName) (entry : EntryName) (d : Dir) : Prop :=
  w.entries entry = some (.dir d) ∧ (∀ staging, entry ≠ .staging staging) ∧ d.importOf = some name

/-- The source has an import. -/
def World.Imported (w : World) (name : BackupName) : Prop := ∃ entry d, w.ImportAt name entry d

/-- Every entry is a backup that passes `_validate_backup_integrity`. -/
def World.Sound (w : World) : Prop :=
  ∀ entry node, w.entries entry = some node →
    ∃ name d, entry = .backup name ∧ node = .dir d ∧ d.Valid

variable {w w' : World} {sources : List Source} {path : List Nat} {name target : BackupName}
  {entry e : EntryName} {node : Option Node} {d : Dir}

lemma World.importAt_setEntry : (w.setEntry e node).ImportAt name entry d ↔
    entry = e ∧ node = some (.dir d) ∧ (∀ staging, e ≠ .staging staging) ∧ d.importOf = some name ∨
      entry ≠ e ∧ w.ImportAt name entry d := by
  unfold ImportAt setEntry
  grind [Function.update_apply]

lemma World.imported_withBackup (hfresh : w.Fresh target) :
    (w.withBackup target (.dir d)).Imported name ↔ d.importOf = some name ∨ w.Imported name := by
  have hfree := hfresh.absent
  unfold Imported withBackup
  simp only [importAt_setEntry]
  unfold ImportAt
  grind

lemma World.Sound.withBackup (h : w.Sound) (hd : d.Valid) :
    (w.withBackup target (.dir d)).Sound := by
  unfold Sound World.withBackup setEntry at *
  grind [Function.update_apply]

lemma World.validate_ok {metadata : Metadata} (h : w.validate name = .ok metadata) :
    ∃ d, w.entries (.backup name) = some (.dir d) ∧ d.Valid ∧
      d.importOf = metadata.legacySource.map LegacySource.backupName := by
  unfold World.validate at h
  grind [Dir.Valid, Dir.importOf]

lemma collectImport_ok {found imports : Imports} {metadata : Metadata}
    (h : collectImport found metadata = .ok imports) (name : BackupName) :
    (imports.lookup name).isSome ↔ (found.lookup name).isSome ∨
      metadata.legacySource.map LegacySource.backupName = some name := by
  unfold collectImport at h
  grind

section calls

variable [SourceIdentity] {fault : Faults} {I : World → Prop}

/-- The imports are the directories of their sources, one for a source at most. -/
structure Mirrors (sources : List Source) (path : List Nat) (w : World) : Prop where
  legacy : readAllLegacyBackups w.legacy = .ok sources
  faithful : ∀ name entry d, w.ImportAt name entry d →
    ∃ source ∈ sources, source.backupName = name ∧ d = source.dir path
  once : ∀ name e₁ e₂ d₁ d₂, w.ImportAt name e₁ d₁ → w.ImportAt name e₂ d₂ → e₁ = e₂

/-- An entry that becomes the only import of its source, or none. -/
lemma Mirrors.setEntry (h : Mirrors sources path w)
    (hnode : ∀ d name, node = some (.dir d) → (∀ staging, e ≠ .staging staging) →
      d.importOf = some name → (∀ entry d', w.ImportAt name entry d' → entry = e) ∧
        ∃ source ∈ sources, source.backupName = name ∧ d = source.dir path) :
    Mirrors sources path (w.setEntry e node) := by
  refine ⟨h.legacy, fun name entry d himport => ?_, fun name e₁ e₂ d₁ d₂ h₁ h₂ => ?_⟩
  · rcases World.importAt_setEntry.mp himport with ⟨-, hd, hapart, hsource⟩ | ⟨-, hold⟩
    · exact (hnode d name hd hapart hsource).2
    · exact h.faithful name entry d hold
  · rcases World.importAt_setEntry.mp h₁ with ⟨he₁, hd₁, hapart, hsource⟩ | ⟨-, hold₁⟩ <;>
      rcases World.importAt_setEntry.mp h₂ with ⟨he₂, hd₂, hapart', hsource'⟩ | ⟨-, hold₂⟩
    · exact he₁.trans he₂.symm
    · exact he₁.trans ((hnode d₁ name hd₁ hapart hsource).1 e₂ d₂ hold₂).symm
    · exact ((hnode d₂ name hd₂ hapart' hsource').1 e₁ d₁ hold₁).trans he₂.symm
    · exact h.once name e₁ e₂ d₁ d₂ hold₁ hold₂

lemma Mirrors.staging (h : Mirrors sources path w) (staging : Nat) :
    Mirrors sources path (w.setEntry (.staging staging) node) :=
  h.setEntry fun _ _ _ hapart => absurd rfl (hapart staging)

lemma Mirrors.progress {kind : Dir → Prop} (h : Mirrors sources path w)
    (hprogress : Progress w kind w')
    (hkind : ∀ d name, kind d → d.importOf = some name → ¬ w.Imported name ∧
      ∃ source ∈ sources, source.backupName = name ∧ d = source.dir path) :
    Mirrors sources path w' := by
  cases hprogress with
  | unchanged => exact h
  | staged staging content _ => exact h.staging staging
  | published target d hd _ =>
      refine h.setEntry ?_
      rintro _ name ⟨⟩ - hsource
      obtain ⟨hmissing, hfaithful⟩ := hkind d name hd hsource
      exact ⟨fun entry d' himport => absurd ⟨entry, d', himport⟩ hmissing, hfaithful⟩

/-- Residue is in one place only, before and after it is moved. -/
lemma Mirrors.moved {source : BackupName} {retry : Nat} (h : Mirrors sources path w)
    (hmoved : Moved w (.nested source retry) w') : Mirrors sources path w' := by
  cases hmoved with
  | unchanged => exact h
  | moved target node hentry _ =>
      have hgone : Mirrors sources path (w.setEntry (.nested source retry) none) :=
        h.setEntry fun _ _ hnone => absurd hnone (by simp)
      refine hgone.setEntry ?_
      rintro d name ⟨⟩ - hsource
      have hresidue : w.ImportAt name (.nested source retry) d := ⟨hentry, by simp, hsource⟩
      refine ⟨fun entry d' himport => ?_, h.faithful name _ d hresidue⟩
      rcases World.importAt_setEntry.mp himport with ⟨-, hnone, -⟩ | ⟨hne, hold⟩
      · cases hnone
      · exact absurd (h.once name _ _ _ _ hold hresidue) hne

/-! ## Runs of an import -/

/-- Every entry that was listed passes, and the imports among them are found. -/
lemma safe_collectImports (entries : List (EntryName × Node)) (found : Imports) (hw : I w) :
    Safe ⟨fun w' _ => I w', Outcome fault⟩
      (fun w' imports => w' = w ∧
        (∀ item ∈ entries, ∃ name d, item.1 = .backup name ∧ w.entries item.1 = some (.dir d) ∧
          d.Valid) ∧
        ∀ name, (imports.lookup name).isSome ↔ (found.lookup name).isSome ∨
          ∃ item ∈ entries, ∃ d, w.entries item.1 = some (.dir d) ∧ d.importOf = some name)
      (fun w' _ => I w') w (collectImports found entries) := by
  induction entries generalizing found with
  | nil => exact ⟨rfl, by simp, by simp⟩
  | cons first rest ih =>
      obtain ⟨entry, node⟩ := first
      cases entry with
      | backup name =>
          refine safe_bind.mpr (safe_validate.mpr ⟨hw, fun metadata hmetadata => ?_, fun _ _ => hw⟩)
          obtain ⟨d, hentry, hvalid, hsource⟩ := World.validate_ok hmetadata
          refine safe_bind.mpr (safe_ofExcept.mpr ⟨fun next hnext => ?_, fun _ _ => hw⟩)
          refine (ih next).mono ?_ fun _ _ h => h
          rintro w' imports ⟨rfl, hall, hfound⟩
          refine ⟨rfl, List.forall_mem_cons.mpr ⟨⟨name, d, rfl, hentry, hvalid⟩, hall⟩, fun _ => ?_⟩
          rw [hfound, collectImport_ok hnext, ← hsource]
          simp [hentry, or_assoc]
      | _ => exact hw

/-- A publication that returns has validated the directory. -/
lemma safe_validated (tries : Nat) (source : Source) :
    Safe ⟨fun _ _ => True, Outcome fault⟩
      (fun w' published => ∃ metadata, w'.validate published = .ok metadata) (fun _ _ => True) w
      (publishLegacyBackup path tries source) := by
  unfold publishLegacyBackup
  refine (safe_true w _).bind fun w target _ => (safe_true w _).bind fun w staging _ =>
    (safe_true w _).bind fun w _ _ => safe_tryCatch.mpr (Safe.mono (E := fun _ _ => True) ?_
      (fun _ _ h => h) fun w _ _ => (safe_true w _).bind fun _ _ _ => trivial)
  refine (safe_true w _).bind fun w _ _ => (safe_true w _).bind fun w published _ => ?_
  refine safe_bind.mpr (safe_tryCatch.mpr (safe_bind.mpr (safe_outside.mpr ⟨trivial, ?_, ?_⟩)))
  · exact safe_bind.mpr (safe_validate.mpr ⟨trivial, fun m hm => ⟨m, hm⟩,
      fun _ _ => (safe_true w _).bind fun _ _ _ => trivial⟩)
  · exact fun _ _ => (safe_true w _).bind fun _ _ _ => trivial

/-- What an import keeps wherever it stops. -/
structure KeptByImport (sources : List Source) (path : List Nat) (I : World → Prop) : Prop where
  moved : ∀ w w' source retry, I w → Moved w (.nested source retry) w' → I w'
  progress : ∀ w w' source, I w → source ∈ sources → ¬ w.Imported source.backupName →
    Progress w (· = source.dir path) w' → I w'

/-- The sources that are not there yet are published one by one. -/
lemma safe_importSources (hI : KeptByImport sources path I) (tries : Nat) {rest : List Source}
    (hrest : rest ⊆ sources) {existing : Imports} (hw : I w) (hsound : w.Sound)
    (hexisting : ∀ name, (existing.lookup name).isSome ↔ w.Imported name) :
    Safe ⟨fun w' _ => I w', Outcome fault⟩
      (fun w' _ => I w' ∧ w'.Sound ∧ ∀ name,
        w'.Imported name ↔ w.Imported name ∨ ∃ source ∈ rest, source.backupName = name)
      (fun w' _ => I w') w (importSources path tries existing rest) := by
  induction rest generalizing w existing with
  | nil => exact ⟨hw, hsound, by simp⟩
  | cons source rest ih =>
      obtain ⟨hsource, hrest'⟩ := List.cons_subset.mp hrest
      unfold importSources
      cases hlookup : existing.lookup source.backupName with
      | some identity =>
          have hthere : w.Imported source.backupName := (hexisting _).mp (by rw [hlookup]; rfl)
          dsimp only
          split
          · refine (ih hrest' hw hsound hexisting).mono ?_ fun _ _ h => h
            rintro w' published ⟨hw', hsound', himported⟩
            refine ⟨hw', hsound', fun name => ?_⟩
            rw [himported]
            grind
          · exact hw
      | none =>
          have hmissing : ¬ w.Imported source.backupName := by
            rw [← hexisting, hlookup]
            simp
          have hprogress : ∀ w', Progress w (· = source.dir path) w' → I w' := fun w' h =>
            hI.progress w w' source hw hsource hmissing h
          refine safe_bind.mpr ((safe_mono_pre (safe_and
            (safe_publishLegacyBackup path tries source) (safe_validated tries source))
              fun w' _ h => hprogress w' h.1.1).mono ?_ fun w' _ h => hprogress w' h.1.1)
          rintro _ target ⟨⟨hfresh, rfl, -⟩, metadata, hvalidate⟩
          obtain ⟨d, hd, hvalid, -⟩ := World.validate_ok hvalidate
          cases World.withBackup_self.symm.trans hd
          have himport : ∀ name, (w.withBackup target (.dir (source.dir path))).Imported name ↔
              source.backupName = name ∨ w.Imported name := fun name =>
            (World.imported_withBackup hfresh).trans (or_congr_left Option.some_inj)
          refine safe_bind.mpr ((ih hrest' (hprogress _ (.published target _ rfl hfresh))
            (hsound.withBackup hvalid) fun name => ?_).mono ?_ fun _ _ h => h)
          · rw [himport, ← hexisting]
            grind
          · rintro w' published ⟨hw', hsound', himported⟩
            refine ⟨hw', hsound', fun name => ?_⟩
            rw [himported, himport]
            grind

/-- `import_legacy_agent_runtime_backups`. -/
lemma safe_import (hI : KeptByImport sources path I) (tries : Nat) (hw : I w)
    (hmirrors : Mirrors sources path w) (hne : sources ≠ []) :
    Safe ⟨fun w' _ => I w', Outcome fault⟩
      (fun w' _ => I w' ∧ w'.Sound ∧ ∀ source ∈ sources, w'.Imported source.backupName)
      (fun w' _ => I w') w (importLegacyAgentRuntimeBackups path tries) := by
  unfold importLegacyAgentRuntimeBackups
  refine safe_bind.mpr (safe_readLegacy.mpr ⟨hw, fun found hfound => ?_, fun _ _ => hw⟩)
  cases hmirrors.legacy.symm.trans hfound
  rw [List.isEmpty_eq_false_iff.mpr hne]
  refine safe_bind.mpr (safe_outside.mpr ⟨hw, ?_, fun _ _ => hw⟩)
  refine safe_bind.mpr (safe_bind.mpr ((safe_mono_pre (safe_recoverInterruptedLegacyPublications
    hI.moved hw) fun _ _ h => h.1).mono ?_ fun _ _ h => h))
  intro w₁ _ hw₁
  refine safe_bind.mpr (safe_listRoot.mpr ⟨hw₁, fun entries hlists => ?_, fun _ _ => hw₁⟩)
  refine (safe_collectImports entries [] hw₁).mono ?_ fun _ _ h => h
  rintro w₂ imports ⟨rfl, hall, himports⟩
  have hsound : w₂.Sound := by
    intro entry node hentry
    obtain ⟨name, d, rfl, hd, hvalid⟩ := hall _ ((hlists _ _).mpr hentry)
    cases hentry.symm.trans hd
    exact ⟨name, d, rfl, rfl, hvalid⟩
  refine (safe_importSources hI tries (List.Subset.refl _) hw₁ hsound fun name => ?_).mono ?_
    fun _ _ h => h
  · rw [himports]
    constructor
    · rintro (h | ⟨item, hitem, d, hentry, hsource⟩)
      · cases h
      · obtain ⟨_, _, hbackup, -⟩ := hall item hitem
        exact ⟨item.1, d, hentry, by simp [hbackup], hsource⟩
    · rintro ⟨entry, d, himport⟩
      exact .inr ⟨(entry, .dir d), (hlists _ _).mpr himport.1, d, himport.1, himport.2.2⟩
  · rintro w' _ ⟨hw', hsound', himported⟩
    exact ⟨hw', hsound', fun source hsource => (himported _).mpr (.inr ⟨source, hsource, rfl⟩)⟩

/-- Wherever a run stops. -/
lemma stops_import {tries : Nat} (hI : KeptByImport sources path I) (hw : I w)
    (hmirrors : Mirrors sources path w) (hne : sources ≠ []) (h : Stops (Outcome fault)
      (fun _ _ => True) (importLegacyAgentRuntimeBackups path tries) w w') : I w' :=
  h.of_safe ((safe_mono_pre (safe_import hI tries hw hmirrors hne) fun _ _ h _ => h).mono
    (fun _ _ h => h.1) fun _ _ h => h)

/-- A run, wherever it stops, or a change of a staging directory. -/
inductive ImportStep (path : List Nat) (w w' : World) : Prop where
  | run (fault : Faults) (tries : Nat) (h : Stops (Outcome fault) (fun _ _ => True)
      (importLegacyAgentRuntimeBackups path tries) w w')
  | staging (number : Nat) (node : Option Node) (h : w' = w.setEntry (.staging number) node)

lemma keptByImport (sources : List Source) (path : List Nat) :
    KeptByImport sources path (Mirrors sources path) where
  moved _ _ _ _ hw hmoved := hw.moved hmoved
  progress w w' source hw hsource hmissing hprogress := by
    refine hw.progress hprogress ?_
    rintro _ name rfl himport
    cases himport
    exact ⟨hmissing, source, hsource, rfl, rfl⟩

lemma ImportStep.keeps (hne : sources ≠ []) (hstep : ImportStep path w w')
    (hw : Mirrors sources path w) : Mirrors sources path w' := by
  cases hstep with
  | run fault tries h => exact stops_import (keptByImport sources path) hw hw hne h
  | staging number node h =>
      subst h
      exact hw.staging number

end calls

section sample

attribute [local instance] sampleSourceIdentity

/-- A legacy root with a backup of the first generation, without files. -/
def sampleLegacy : LegacyRoot where
  refused := false
  entries := [(.backup { instant := 0, offset := 0, suffix := 1 }, {
    refused := false
    unexpected := false
    backupJson := some (.regular (utf8
      "\x7b\"created_at\":\"0\",\"had_compose\":false,\"had_manifest\":false\x7d".toList))
    artifact _ := none
    diagnostics := none })]

end sample

end AgentRuntimeOps.BackupRoot
