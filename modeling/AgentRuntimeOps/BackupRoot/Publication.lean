import AgentRuntimeOps.BackupRoot.Basic
import AgentRuntimeOps.Lib.Checks

/-!
# What a publication does to the backup root

Wherever a publication stops, the root is as it was, has a staging directory more, or has the
published directory more under a name that is newer than all of its instant (`Progress`).
-/

namespace AgentRuntimeOps.BackupRoot

open AgentRuntimeOps.Lib Program
open AgentRuntimeOps.Runtime (Managed BackupName Digest FileState maxArtifactBytes nextBackupName)

variable [SourceIdentity]

/-! ## What each step obliges a proof to -/

section rules

variable {pre : World → Op → Prop} {fault : Faults} {E : World → Raised → Prop} {w : World}

/-- The rule for an operation that leaves the world as it is. -/
lemma safe_answered (op : Op) (ok : op.Res → Prop) (error : Raised → Prop)
    {Q : World → op.Res → Prop}
    (hop : ∀ r w', Outcome fault w op r w' ↔
      w' = w ∧ ((∃ a, r = .ok a ∧ ok a) ∨ ∃ e, r = .error e ∧ error e)) :
    Safe ⟨pre, Outcome fault⟩ Q E w op.run ↔
      pre w op ∧ (∀ a, ok a → Q w a) ∧ ∀ e, error e → E w e := by
  refine safe_perform.trans (and_congr_right fun _ => ⟨fun h => ⟨?_, ?_⟩, fun h => ⟨?_, ?_⟩⟩)
  · exact fun a ha => h.1 a w ((hop _ _).mpr ⟨rfl, .inl ⟨a, rfl, ha⟩⟩)
  · exact fun e he => h.2 e w ((hop _ _).mpr ⟨rfl, .inr ⟨e, rfl, he⟩⟩)
  · intro a w' hr
    obtain ⟨rfl, ⟨a', ha, hok⟩ | ⟨e, he, -⟩⟩ := (hop _ _).mp hr
    · cases ha
      exact h.1 _ hok
    · cases he
  · intro e w' hr
    obtain ⟨rfl, ⟨a', ha, -⟩ | ⟨e', he, herror⟩⟩ := (hop _ _).mp hr
    · cases ha
    · cases he
      exact h.2 _ herror

omit [SourceIdentity] in
/-- An answer that is computed, in the form of the rule. -/
lemma answered_iff {α : Type} {faulty : Prop} {answer r : Except Raised α} :
    Answered faulty answer r ↔
      (∃ a, r = .ok a ∧ answer = .ok a) ∨ ∃ e, r = .error e ∧ (answer = .error e ∨ faulty) := by
  constructor
  · rintro (rfl | ⟨hf, e, rfl⟩)
    · cases r with
      | ok a => exact .inl ⟨a, rfl, rfl⟩
      | error e => exact .inr ⟨e, rfl, .inl rfl⟩
    · exact .inr ⟨e, rfl, .inr hf⟩
  · rintro (⟨a, rfl, rfl⟩ | ⟨e, rfl, rfl | hf⟩)
    · exact .inl rfl
    · exact .inl rfl
    · exact .inr ⟨hf, e, rfl⟩

@[simp] lemma safe_outside {step : Outside} {Q : World → Unit → Prop} :
    Safe ⟨pre, Outcome fault⟩ Q E w step.run ↔
      pre w (.outside step) ∧ Q w () ∧ (fault (.outside step) → ∀ e, E w e) := by
  refine (safe_answered (.outside step) (fun _ => True) (fun _ => fault (.outside step))
    fun r w' => ?_).trans ?_
  · refine and_congr_right fun _ => or_congr ?_ ?_
    · exact ⟨fun h => ⟨(), h, trivial⟩, fun ⟨_, h, _⟩ => h⟩
    · exact ⟨fun ⟨hf, e, h⟩ => ⟨e, h, hf⟩, fun ⟨e, h, hf⟩ => ⟨hf, e, h⟩⟩
  · exact and_congr_right fun _ => and_congr ⟨fun h => h () trivial, fun h _ _ => h⟩
      ⟨fun h hf e => h e hf, fun h e hf => h hf e⟩

/-- The rule for a read. -/
lemma safe_read (op : Op) {answer : Except Raised op.Res} {Q : World → op.Res → Prop}
    (hop : ∀ r w', Outcome fault w op r w' ↔ w' = w ∧ Answered (fault op) answer r) :
    Safe ⟨pre, Outcome fault⟩ Q E w op.run ↔
      pre w op ∧ (∀ a, answer = .ok a → Q w a) ∧
        ∀ e, answer = .error e ∨ fault op → E w e :=
  safe_answered op (fun a => answer = .ok a) (fun e => answer = .error e ∨ fault op) fun r w' => by
    rw [hop, answered_iff]

@[simp] lemma safe_pending {Q : World → Option BackupName → Prop} :
    Safe ⟨pre, Outcome fault⟩ Q E w Op.pending.run ↔
      pre w .pending ∧ Q w w.pending ∧ (fault .pending → ∀ e, E w e) := by
  refine (safe_read .pending fun _ _ => Iff.rfl).trans (and_congr_right fun _ => and_congr ?_ ?_)
  · simp
  · exact ⟨fun h hf e => h e (.inr hf), fun h e he => h (he.resolve_left nofun) e⟩

@[simp] lemma safe_readFile {file : Managed} {Q : World → Option FileState → Prop} :
    Safe ⟨pre, Outcome fault⟩ Q E w (Op.readFile file).run ↔
      pre w (.readFile file) ∧ Q w (w.runtime file) ∧
        (fault (.readFile file) → ∀ e, E w e) := by
  refine (safe_read (.readFile file) fun _ _ => Iff.rfl).trans
    (and_congr_right fun _ => and_congr ?_ ?_)
  · simp
  · exact ⟨fun h hf e => h e (.inr hf), fun h e he => h (he.resolve_left nofun) e⟩

@[simp] lemma safe_readLegacy {Q : World → List Source → Prop} :
    Safe ⟨pre, Outcome fault⟩ Q E w Op.readLegacy.run ↔
      pre w .readLegacy ∧ (∀ sources, readAllLegacyBackups w.legacy = .ok sources → Q w sources) ∧
        ∀ e, readAllLegacyBackups w.legacy = .error e ∨ fault .readLegacy → E w e :=
  safe_read .readLegacy fun _ _ => Iff.rfl

@[simp] lemma safe_loadMetadata {entry : EntryName} {Q : World → Metadata → Prop} :
    Safe ⟨pre, Outcome fault⟩ Q E w (Op.loadMetadata entry).run ↔
      pre w (.loadMetadata entry) ∧ (∀ m, w.loadMetadata entry = .ok m → Q w m) ∧
        ∀ e, w.loadMetadata entry = .error e ∨ fault (.loadMetadata entry) → E w e :=
  safe_read (.loadMetadata entry) fun _ _ => Iff.rfl

@[simp] lemma safe_validate {name : BackupName} {Q : World → Metadata → Prop} :
    Safe ⟨pre, Outcome fault⟩ Q E w (Op.validate name).run ↔
      pre w (.validate name) ∧ (∀ m, w.validate name = .ok m → Q w m) ∧
        ∀ e, w.validate name = .error e ∨ fault (.validate name) → E w e :=
  safe_read (.validate name) fun _ _ => Iff.rfl

@[simp] lemma safe_now {Q : World → Int × Int → Prop} :
    Safe ⟨pre, Outcome fault⟩ Q E w Op.now.run ↔ pre w .now ∧ ∀ t, Q w t := by
  refine (safe_answered .now (fun _ => True) (fun _ => False) fun r w' => ?_).trans ?_
  · refine and_congr_right fun _ => ?_
    simp
  · simp

@[simp] lemma safe_nowIso {Q : World → List Nat → Prop} :
    Safe ⟨pre, Outcome fault⟩ Q E w Op.nowIso.run ↔ pre w .nowIso ∧ ∀ t, Q w t := by
  refine (safe_answered .nowIso (fun _ => True) (fun _ => False) fun r w' => ?_).trans ?_
  · refine and_congr_right fun _ => ?_
    simp
  · simp

@[simp] lemma safe_listRoot {Q : World → List (EntryName × Node) → Prop} :
    Safe ⟨pre, Outcome fault⟩ Q E w Op.listRoot.run ↔
      pre w .listRoot ∧ (∀ entries, w.Lists entries → Q w entries) ∧
        (fault .listRoot → ∀ e, E w e) := by
  refine (safe_answered .listRoot w.Lists (fun _ => fault .listRoot) fun r w' => ?_).trans ?_
  · refine and_congr_right fun _ => or_congr Iff.rfl ?_
    exact ⟨fun ⟨hf, e, h⟩ => ⟨e, h, hf⟩, fun ⟨e, h, hf⟩ => ⟨hf, e, h⟩⟩
  · exact and_congr_right fun _ => and_congr_right fun _ =>
      ⟨fun h hf e => h e hf, fun h e hf => h hf e⟩

lemma safe_makeStaging {Q : World → Nat → Prop} :
    Safe ⟨pre, Outcome fault⟩ Q E w Op.makeStaging.run ↔
      pre w .makeStaging ∧
        (∀ staging, w.entries (.staging staging) = none →
          Q (w.setEntry (.staging staging) (some (.dir emptyDir))) staging) ∧
        (fault .makeStaging → ∀ e, E w e) := by
  refine safe_perform.trans (and_congr_right fun _ => ⟨fun h => ⟨?_, ?_⟩, fun h => ⟨?_, ?_⟩⟩)
  · exact fun staging hnone => h.1 staging _ (.inl ⟨staging, rfl, hnone, rfl⟩)
  · exact fun hf e => h.2 e w (.inr ⟨hf, ⟨e, rfl⟩, rfl⟩)
  · rintro a w' (⟨staging, ha, hnone, rfl⟩ | ⟨-, ⟨e, he⟩, -⟩)
    · cases ha
      exact h.1 _ hnone
    · cases he
  · rintro e w' (⟨staging, ha, -, -⟩ | ⟨hf, -, rfl⟩)
    · cases ha
    · exact h.2 hf e

lemma safe_rename {source target : EntryName} {Q : World → Unit → Prop} :
    Safe ⟨pre, Outcome fault⟩ Q E w (Op.rename source target).run ↔
      pre w (.rename source target) ∧
        ((w.rename source target).1 = .ok () → Q (w.rename source target).2 ()) ∧
        (∀ e, (w.rename source target).1 = .error e → E (w.rename source target).2 e) ∧
        (fault (.rename source target) → E w .os) := by
  refine safe_perform.trans (and_congr_right fun _ => ⟨fun h => ⟨?_, ?_, ?_⟩, fun h => ⟨?_, ?_⟩⟩)
  · exact fun hok => h.1 () _ (.inl ⟨hok.symm, rfl⟩)
  · exact fun e he => h.2 e _ (.inl ⟨he.symm, rfl⟩)
  · exact fun hf => h.2 .os w (.inr ⟨hf, rfl, rfl⟩)
  · rintro a w' (⟨ha, rfl⟩ | ⟨-, he, -⟩)
    · exact h.1 ha.symm
    · cases he
  · rintro e w' (⟨he, rfl⟩ | ⟨hf, he, rfl⟩)
    · exact h.2.1 e he.symm
    · cases he
      exact h.2.2 hf

lemma safe_removeStaging {staging : Nat} {Q : World → Unit → Prop} :
    Safe ⟨pre, Outcome fault⟩ Q E w (Op.removeStaging staging).run ↔
      pre w (.removeStaging staging) ∧ Q (w.setEntry (.staging staging) none) () ∧
        (fault (.removeStaging staging) → ∀ d, Q (w.mapStaging staging fun _ => d) ()) := by
  refine safe_perform.trans (and_congr_right fun _ => ⟨fun h => ⟨?_, ?_⟩, fun h => ⟨?_, ?_⟩⟩)
  · exact h.1 () _ ⟨rfl, .inl rfl⟩
  · exact fun hf d => h.1 () _ ⟨rfl, .inr ⟨hf, d, rfl⟩⟩
  · rintro a w' ⟨-, rfl | ⟨hf, d, rfl⟩⟩
    · exact h.1
    · exact h.2 hf d
  · rintro e w' ⟨he, -⟩
    cases he

omit [SourceIdentity] in
/-- The rule for a write to a staging directory. -/
lemma staged_rule {faulty : Prop} {staging : Nat} {f : Dir → Dir} {Q : World → Unit → Prop} :
    ((∀ a w', Staged faulty w staging f (.ok a) w' → Q w' a) ∧
      ∀ e w', Staged faulty w staging f (.error e) w' → E w' e) ↔
      Q (w.mapStaging staging f) () ∧
        (faulty → ∀ d e, E (w.mapStaging staging fun _ => d) e) := by
  constructor
  · exact fun h => ⟨h.1 () _ (.inl ⟨rfl, rfl⟩), fun hf d e => h.2 e _ (.inr ⟨hf, ⟨e, rfl⟩, d, rfl⟩)⟩
  · rintro ⟨hQ, hE⟩
    refine ⟨?_, ?_⟩
    · rintro a w' (⟨-, rfl⟩ | ⟨-, ⟨e, he⟩, -⟩)
      · exact hQ
      · cases he
    · rintro e w' (⟨he, -⟩ | ⟨hf, -, d, rfl⟩)
      · cases he
      · exact hE hf d e

lemma safe_writeArtifact {staging : Nat} {file : Managed} {bytes : List UInt8}
    {Q : World → Unit → Prop} :
    Safe ⟨pre, Outcome fault⟩ Q E w (Op.writeArtifact staging file bytes).run ↔
      pre w (.writeArtifact staging file bytes) ∧
        Q (w.mapStaging staging fun d =>
          { d with artifact := Function.update d.artifact file (some bytes) }) () ∧
        (fault (.writeArtifact staging file bytes) →
          ∀ d e, E (w.mapStaging staging fun _ => d) e) :=
  safe_perform.trans (and_congr_right fun _ => staged_rule)

lemma safe_writeDiagnostic {staging : Nat} {diagnostic : Diagnostic} {bytes : List UInt8}
    {Q : World → Unit → Prop} :
    Safe ⟨pre, Outcome fault⟩ Q E w (Op.writeDiagnostic staging diagnostic bytes).run ↔
      pre w (.writeDiagnostic staging diagnostic bytes) ∧
        Q (w.mapStaging staging fun d =>
          { d with diagnostics := Function.update d.diagnostics diagnostic (some bytes) }) () ∧
        (fault (.writeDiagnostic staging diagnostic bytes) →
          ∀ d e, E (w.mapStaging staging fun _ => d) e) :=
  safe_perform.trans (and_congr_right fun _ => staged_rule)

lemma safe_writeMetadata {staging : Nat} {metadata : Metadata} {Q : World → Unit → Prop} :
    Safe ⟨pre, Outcome fault⟩ Q E w (Op.writeMetadata staging metadata).run ↔
      pre w (.writeMetadata staging metadata) ∧
        Q (w.mapStaging staging fun d => { d with metadata := .valid metadata }) () ∧
        (fault (.writeMetadata staging metadata) →
          ∀ d e, E (w.mapStaging staging fun _ => d) e) :=
  safe_perform.trans (and_congr_right fun _ => staged_rule)

lemma safe_attempt {α : Type} {p : Run α} {Q : World → Except Raised α → Prop} :
    Safe ⟨pre, Outcome fault⟩ Q E w (attempt p) ↔
      Safe ⟨pre, Outcome fault⟩ (fun w' a => Q w' (.ok a)) (fun w' e => Q w' (.error e)) w p := by
  refine safe_tryCatch.trans ?_
  rw [safe_bind]
  rfl

end rules

/-! ## The root between two steps -/

namespace World

/-- A backup of that name is there. -/
def Has (w : World) (name : BackupName) : Prop := (w.entries (.backup name)).isSome = true

instance (w : World) (name : BackupName) : Decidable (w.Has name) :=
  inferInstanceAs (Decidable (_ = true))

/-- The name is newer than every backup of its instant. -/
def Fresh (w : World) (name : BackupName) : Prop :=
  ∀ other, w.Has other → other.instant = name.instant → other.suffix < name.suffix

/-- The root with a staging directory. -/
def withStaging (w : World) (staging : Nat) (d : Dir) : World :=
  w.setEntry (.staging staging) (some (.dir d))

/-- The root with a backup more. -/
def withBackup (w : World) (name : BackupName) (node : Node) : World :=
  w.setEntry (.backup name) (some node)

end World

section between

variable {w : World} {name : BackupName} {staging : Nat} {d : Dir}

omit [SourceIdentity] in
lemma World.Fresh.absent (h : w.Fresh name) : w.entries (.backup name) = none := by
  by_contra hne
  exact lt_irrefl _ (h name (Option.isSome_iff_ne_none.mpr hne) rfl)

omit [SourceIdentity] in
@[simp] lemma World.withStaging_self :
    (w.withStaging staging d).entries (.staging staging) = some (.dir d) :=
  Function.update_self _ _ _

omit [SourceIdentity] in
@[simp] lemma World.withStaging_backup :
    (w.withStaging staging d).entries (.backup name) = w.entries (.backup name) := by
  simp [World.withStaging, World.setEntry]

omit [SourceIdentity] in
@[simp] lemma World.withBackup_self {node : Node} :
    (w.withBackup name node).entries (.backup name) = some node :=
  Function.update_self _ _ _

omit [SourceIdentity] in
lemma World.withBackup_of_ne {node : Node} {other : BackupName} (h : other ≠ name) :
    (w.withBackup name node).entries (.backup other) = w.entries (.backup other) := by
  have hne : EntryName.backup other ≠ .backup name := fun heq => h (EntryName.backup.inj heq)
  exact Function.update_of_ne hne _ _

omit [SourceIdentity] in
@[simp] lemma World.withBackup_staging {node : Node} :
    (w.withBackup name node).entries (.staging staging) = w.entries (.staging staging) := by
  simp [World.withBackup, World.setEntry]

omit [SourceIdentity] in
@[simp] lemma World.mapStaging_withStaging (f : Dir → Dir) :
    (w.withStaging staging d).mapStaging staging f = w.withStaging staging (f d) := by
  simp [World.mapStaging, World.withStaging, World.setEntry]

omit [SourceIdentity] in
lemma World.setEntry_eq_self {entry : EntryName} {node : Option Node}
    (h : w.entries entry = node) : w.setEntry entry node = w := by
  rw [World.setEntry, ← h, Function.update_eq_self]

omit [SourceIdentity] in
/-- Removing the staging directory again. -/
lemma World.setEntry_withStaging (h : w.entries (.staging staging) = none) :
    (w.withStaging staging d).setEntry (.staging staging) none = w := by
  rw [World.withStaging, World.setEntry, World.setEntry, Function.update_idem]
  exact World.setEntry_eq_self h

omit [SourceIdentity] in
lemma World.has_withStaging : (w.withStaging staging d).Has name ↔ w.Has name := by
  simp [World.Has, World.withStaging, World.setEntry]

omit [SourceIdentity] in
lemma World.fresh_withStaging : (w.withStaging staging d).Fresh name ↔ w.Fresh name := by
  simp only [World.Fresh, World.has_withStaging]

/-- Wherever the publication of a directory of that kind stops. -/
inductive Progress (w : World) (kind : Dir → Prop) : World → Prop where
  | unchanged : Progress w kind w
  | staged (staging : Nat) (content : Dir) (hfree : w.entries (.staging staging) = none) :
      Progress w kind (w.withStaging staging content)
  | published (name : BackupName) (d : Dir) (hkind : kind d) (hfresh : w.Fresh name) :
      Progress w kind (w.withBackup name (.dir d))

/-- A directory is renamed to the name of a backup only if the name is newer than every backup of
its instant. -/
def Op.InOrder (w : World) : Op → Prop
  | .rename _ (.backup name) => w.Fresh name
  | _ => True

/-- Every entry that is not ignored is a directory with the name of a backup. -/
def World.Readable (w : World) (ignored : List EntryName) : Prop :=
  ∀ entry node, w.entries entry = some node → entry ∉ ignored →
    ∃ name d, entry = .backup name ∧ node = .dir d

omit [SourceIdentity] in
/-- What the listing accepts, and the names that it finds. -/
lemma backupNames_ok {ignored : List EntryName} {entries : List (EntryName × Node)}
    {names : List BackupName} (h : backupNames ignored entries = .ok names) {entry : EntryName}
    {node : Node} (hmem : (entry, node) ∈ entries) (hnot : entry ∉ ignored) :
    ∃ name d, entry = .backup name ∧ node = .dir d ∧ name ∈ names := by
  induction entries generalizing names with
  | nil => cases hmem
  | cons first rest ih =>
      obtain ⟨e, n⟩ := first
      unfold backupNames at h
      by_cases hignored : e ∈ ignored
      · rw [if_pos hignored] at h
        rcases List.mem_cons.mp hmem with heq | hrest
        · cases heq
          exact absurd hignored hnot
        · exact ih h hrest
      · rw [if_neg hignored] at h
        split at h
        · rename_i found d
          rw [except_bind_ok] at h
          obtain ⟨others, hothers, hnames⟩ := h
          cases hnames
          rcases List.mem_cons.mp hmem with heq | hrest
          · cases heq
            exact ⟨found, d, rfl, rfl, List.mem_cons_self⟩
          · obtain ⟨name, d', hentry, hnode, hname⟩ := ih hothers hrest
            exact ⟨name, d', hentry, hnode, List.mem_cons_of_mem _ hname⟩
        · cases h
        · cases h

omit [SourceIdentity] in
/-- The listing raises only at an entry that does not belong there. -/
lemma exists_backupNames {ignored : List EntryName} {entries : List (EntryName × Node)}
    (h : ∀ entry node, (entry, node) ∈ entries → entry ∉ ignored →
      ∃ name d, entry = .backup name ∧ node = .dir d) :
    ∃ names, backupNames ignored entries = .ok names := by
  induction entries with
  | nil => exact ⟨[], rfl⟩
  | cons first rest ih =>
      obtain ⟨e, n⟩ := first
      obtain ⟨names, hnames⟩ := ih fun entry node hmem => h entry node (List.mem_cons_of_mem _ hmem)
      unfold backupNames
      by_cases hignored : e ∈ ignored
      · exact ⟨names, by rw [if_pos hignored, hnames]⟩
      · obtain ⟨name, d, rfl, rfl⟩ := h e n List.mem_cons_self hignored
        refine ⟨name :: names, ?_⟩
        rw [if_neg hignored, hnames]
        rfl

omit [SourceIdentity] in
lemma instant_nextBackupName (names : List BackupName) (original : BackupName) :
    (nextBackupName names original).instant = original.instant := by
  unfold nextBackupName
  dsimp only
  split
  · rfl
  · rfl

omit [SourceIdentity] in
/-- The next name is newer than every backup of its instant that was listed. -/
lemma fresh_nextBackupName {names : List BackupName} {original : BackupName}
    (h : ∀ other, w.Has other → other ∈ names) : w.Fresh (nextBackupName names original) := by
  intro other hother hinstant
  rw [instant_nextBackupName] at hinstant
  have hlisted : other ∈ names.filter fun n => n.instant == original.instant :=
    List.mem_filter.mpr ⟨h other hother, beq_iff_eq.mpr hinstant⟩
  unfold nextBackupName
  dsimp only
  cases hmax : ((names.filter fun n => n.instant == original.instant).map
      BackupName.suffix).max? with
  | none =>
      rw [List.max?_eq_none_iff, List.map_eq_nil_iff] at hmax
      rw [hmax] at hlisted
      cases hlisted
  | some largest =>
      have hle := (List.max?_eq_some_iff.mp hmax).2 _ (List.mem_map_of_mem hlisted)
      exact Nat.lt_succ_of_le hle

/-- Some operation may go wrong. -/
def Faulty (fault : Faults) : Prop := ∃ op, fault op

variable {fault : Faults}

/-- `_next_backup_path` finds a name, or the root has an entry that does not belong there. -/
lemma safe_nextBackupPath {pre : World → Op → Prop} {original : BackupName}
    {ignored : List EntryName} (hignored : ∀ n, .backup n ∉ ignored) (hpre : pre w .listRoot) :
    Safe ⟨pre, Outcome fault⟩
      (fun w' target => w' = w ∧ w.Fresh target ∧ target.instant = original.instant ∧
        w.Readable ignored)
      (fun w' _ => w' = w ∧ (Faulty fault ∨ ¬ w.Readable ignored)) w
      (nextBackupPath original ignored) := by
  unfold nextBackupPath
  refine safe_bind.mpr (safe_listRoot.mpr ⟨hpre, fun entries hlists => ?_,
    fun hf _ => ⟨rfl, .inl ⟨_, hf⟩⟩⟩)
  refine safe_bind.mpr (safe_ofExcept.mpr ⟨fun names hnames => ?_, fun e he => ⟨rfl, .inr ?_⟩⟩)
  · refine ⟨rfl, ?_, instant_nextBackupName _ _, ?_⟩
    · refine fresh_nextBackupName fun other hother => ?_
      obtain ⟨node, hnode⟩ := Option.isSome_iff_exists.mp hother
      obtain ⟨name, d, hname, -, hmem⟩ :=
        backupNames_ok hnames ((hlists _ _).mpr hnode) (hignored other)
      cases hname
      exact hmem
    · intro entry node hentry hnot
      obtain ⟨name, d, hname, hnode, -⟩ := backupNames_ok hnames ((hlists _ _).mpr hentry) hnot
      exact ⟨name, d, hname, hnode⟩
  · intro hreadable
    obtain ⟨names, hnames⟩ := exists_backupNames fun entry node hmem =>
      hreadable entry node ((hlists _ _).mp hmem)
    rw [hnames] at he
    cases he

/-! ## Renaming -/

/-- What holds whenever a publication is cut off. -/
def At (w : World) (kind : Dir → Prop) (w' : World) (op : Op) : Prop :=
  Progress w kind w' ∧ op.InOrder w'

omit [SourceIdentity] in
/-- A staging directory is renamed to a name that is not there. -/
lemma rename_staged (hfree : w.entries (.staging staging) = none) (hfresh : w.Fresh name) :
    (w.withStaging staging d).rename (.staging staging) (.backup name) =
      (.ok (), w.withBackup name (.dir d)) := by
  unfold World.rename
  rw [World.withStaging_self, World.withStaging_backup, hfresh.absent]
  simp only [World.setEntry_withStaging hfree, World.withBackup]

omit [SourceIdentity] in
/-- A backup that is new is renamed back to its staging directory. -/
lemma rename_back (hfree : w.entries (.staging staging) = none) (hfresh : w.Fresh name) :
    (w.withBackup name (.dir d)).rename (.backup name) (.staging staging) =
      (.ok (), w.withStaging staging d) := by
  have hback : (w.withBackup name (.dir d)).setEntry (.backup name) none = w := by
    rw [World.withBackup, World.setEntry, World.setEntry, Function.update_idem]
    exact World.setEntry_eq_self hfresh.absent
  unfold World.rename
  rw [World.withBackup_self, World.withBackup_staging, hfree]
  simp only [hback, World.withStaging]

variable {kind : Dir → Prop}

/-- The first name is free, so it is the one that is taken. -/
lemma safe_renameStaged (hfree : w.entries (.staging staging) = none)
    (hfresh : w.Fresh name) (original : BackupName) (tries : Nat) :
    Safe ⟨At w kind, Outcome fault⟩
      (fun w' found => found = name ∧ w' = w.withBackup name (.dir d))
      (fun w' _ => w' = w.withStaging staging d ∧ (Faulty fault ∨ tries = 0))
      (w.withStaging staging d) (renameStaged staging original tries name) := by
  cases tries with
  | zero => exact ⟨rfl, .inr rfl⟩
  | succ tries =>
      have hat : At w kind (w.withStaging staging d) (.rename (.staging staging) (.backup name)) :=
        ⟨.staged staging d hfree, World.fresh_withStaging.mpr hfresh⟩
      unfold renameStaged
      refine safe_bind.mpr (safe_attempt.mpr (safe_rename.mpr ⟨hat, ?_, ?_, ?_⟩))
      · rw [rename_staged hfree hfresh]
        exact fun _ => ⟨rfl, rfl⟩
      · rw [rename_staged hfree hfresh]
        exact nofun
      · exact fun hf => ⟨rfl, .inl ⟨_, hf⟩⟩

/-- Removing the staging directory. -/
lemma safe_giveUp {E : World → Raised → Prop} {Q : World → Unit → Prop} (w₁ : World)
    (h₁ : w₁ = w ∨ (∃ d, w₁ = w.withStaging staging d) ∨
      ∃ name d, kind d ∧ w.Fresh name ∧ w₁ = w.withBackup name (.dir d))
    (hfree : w.entries (.staging staging) = none) (hQ : ∀ w', Progress w kind w' → Q w' ()) :
    Safe ⟨At w kind, Outcome fault⟩ Q E w₁ (Op.removeStaging staging).run := by
  have habsent : ∀ {w₂ : World}, w₂.entries (.staging staging) = none → Progress w kind w₂ →
      Safe ⟨At w kind, Outcome fault⟩ Q E w₂ (Op.removeStaging staging).run := by
    intro w₂ hnone hprogress
    refine safe_removeStaging.mpr ⟨⟨hprogress, trivial⟩, ?_, fun _ d => ?_⟩
    · rw [World.setEntry_eq_self hnone]
      exact hQ _ hprogress
    · rw [World.mapStaging, hnone]
      exact hQ _ hprogress
  rcases h₁ with rfl | ⟨d, rfl⟩ | ⟨name, d, hd, hfresh, rfl⟩
  · exact habsent hfree .unchanged
  · refine safe_removeStaging.mpr ⟨⟨.staged staging d hfree, trivial⟩, ?_, fun _ d' => ?_⟩
    · rw [World.setEntry_withStaging hfree]
      exact hQ _ .unchanged
    · rw [World.mapStaging_withStaging]
      exact hQ _ (.staged staging d' hfree)
  · refine habsent ?_ (.published name d hd hfresh)
    rw [World.withBackup_staging]
    exact hfree

/-! ## Staging -/

/-- The staging directory is filled in part. -/
def PartlyStaged (w : World) (staging : Nat) (w' : World) : Prop :=
  ∃ d, w' = w.withStaging staging d

/-- What is there, under what is put over it. -/
def overlay {α β : Type} [DecidableEq α] (todo : List α) (new old : α → Option β) :
    α → Option β :=
  fun a => if a ∈ todo then (new a).or (old a) else old a

omit [SourceIdentity] in
/-- Everything is put over nothing. -/
lemma overlay_none {α β : Type} [DecidableEq α] {todo : List α} (h : ∀ a, a ∈ todo)
    (new : α → Option β) : overlay todo new (fun _ => none) = new := by
  funext a
  simp [overlay, h a]

/-- A loop that writes the files of a staging directory one by one. -/
lemma safe_stageEach {α β : Type} [DecidableEq α] {f : α → Run Unit}
    (content : (α → Option β) → Dir) (new : α → Option β) {E : World → Raised → Prop}
    (hskip : ∀ a, new a = none → f a = pure ())
    (hwrite : ∀ a v old, new a = some v → Safe ⟨At w kind, Outcome fault⟩
      (fun w' _ => w' = w.withStaging staging (content (Function.update old a (some v)))) E
      (w.withStaging staging (content old)) (f a))
    (todo : List α) (old : α → Option β) :
    Safe ⟨At w kind, Outcome fault⟩
      (fun w' _ => w' = w.withStaging staging (content (overlay todo new old))) E
      (w.withStaging staging (content old)) (forEach f todo) := by
  induction todo generalizing old with
  | nil =>
      have hnil : overlay [] new old = old := by
        funext a
        simp [overlay]
      rw [hnil]
      exact rfl
  | cons a todo ih =>
      cases hnew : new a with
      | none =>
          have hstep : Safe ⟨At w kind, Outcome fault⟩
              (fun w' _ => w' = w.withStaging staging (content old)) E
              (w.withStaging staging (content old)) (f a) := by
            rw [hskip a hnew]
            exact rfl
          refine hstep.bind ?_
          rintro _ _ rfl
          refine (ih old).bind ?_
          rintro _ _ rfl
          show w.withStaging staging (content _) = w.withStaging staging (content _)
          congr 2
          funext x
          by_cases hx : x = a
          · subst hx
            simp [overlay, hnew]
          · simp [overlay, hx]
      | some v =>
          refine (hwrite a v old hnew).bind ?_
          rintro _ _ rfl
          refine (ih (Function.update old a (some v))).bind ?_
          rintro _ _ rfl
          show w.withStaging staging (content _) = w.withStaging staging (content _)
          congr 2
          funext x
          by_cases hx : x = a
          · subst hx
            simp [overlay, hnew]
          · simp [overlay, hx]

/-- The directory of an imported backup. -/
def Source.dir (source : Source) (stateManifestPath : List Nat) : Dir where
  controlled := true
  metadata := .valid (importedMetadata stateManifestPath source)
  artifact := source.artifact
  diagnostics := source.diagnostics

lemma safe_stageSource (source : Source) (stateManifestPath : List Nat)
    (hfree : w.entries (.staging staging) = none) :
    Safe ⟨At w kind, Outcome fault⟩
      (fun w' _ => w' = w.withStaging staging (source.dir stateManifestPath))
      (fun w' _ => PartlyStaged w staging w' ∧ Faulty fault)
      (w.withStaging staging emptyDir) (stageSource staging stateManifestPath source) := by
  have hat : ∀ {d : Dir} {op : Op}, op.InOrder (w.withStaging staging d) →
      At w kind (w.withStaging staging d) op := fun hop => ⟨.staged staging _ hfree, hop⟩
  unfold stageSource
  refine (safe_stageEach
    (fun artifact => { controlled := true, metadata := .absent, artifact := artifact,
                       diagnostics := fun _ => none })
    source.artifact ?_ ?_ artifacts fun _ => none).bind ?_
  · intro file hnone
    simp only [hnone]
  · intro file bytes old hsome
    simp only [hsome]
    refine safe_writeArtifact.mpr ⟨hat trivial, ?_, fun hf d e => ?_⟩
    · rw [World.mapStaging_withStaging]
    · rw [World.mapStaging_withStaging]
      exact ⟨⟨d, rfl⟩, _, hf⟩
  rw [overlay_none mem_artifacts]
  rintro _ _ rfl
  refine (safe_stageEach
    (fun diagnostics => { controlled := true, metadata := .absent, artifact := source.artifact,
                          diagnostics := diagnostics })
    source.diagnostics ?_ ?_ Diagnostic.all fun _ => none).bind ?_
  · intro diagnostic hnone
    simp only [hnone]
  · intro diagnostic bytes old hsome
    simp only [hsome]
    refine safe_writeDiagnostic.mpr ⟨hat trivial, ?_, fun hf d e => ?_⟩
    · rw [World.mapStaging_withStaging]
    · rw [World.mapStaging_withStaging]
      exact ⟨⟨d, rfl⟩, _, hf⟩
  rw [overlay_none Diagnostic.mem_all]
  rintro _ _ rfl
  refine safe_bind.mpr (safe_writeMetadata.mpr ⟨hat trivial, ?_, fun hf d e => ?_⟩)
  · rw [World.mapStaging_withStaging]
    exact safe_outside.mpr ⟨hat trivial, rfl, fun hf _ => ⟨⟨_, rfl⟩, _, hf⟩⟩
  · rw [World.mapStaging_withStaging]
    exact ⟨⟨d, rfl⟩, _, hf⟩

end between

end AgentRuntimeOps.BackupRoot
