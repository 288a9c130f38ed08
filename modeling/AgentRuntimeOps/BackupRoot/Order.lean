import AgentRuntimeOps.BackupRoot.Calls

/-!
# The order of the backups

However `backup_agent_runtime_state`, `_publish_legacy_backup` and
`_recover_interrupted_legacy_publications` follow each other on one root, and wherever they raise or
are cut off, no two backups share a `_backup_sort_key`, and no backup that was there is touched.

`answerWithin` executes the operations on a root with a given supply of names, for the samples.
-/

namespace AgentRuntimeOps.BackupRoot

open AgentRuntimeOps.Lib Program
open AgentRuntimeOps.Runtime (Managed BackupName Digest FileState)

/-- `_backup_sort_key`. -/
def sortKey (name : BackupName) : Int × Nat := (name.instant, name.suffix)

namespace World

/-- No two backups have the same sort key. -/
def Ordered (w : World) : Prop :=
  ∀ a b, w.Has a → w.Has b → sortKey a = sortKey b → a = b

/-- The canonical directories are what they were. -/
def Keeps (w w' : World) : Prop :=
  ∀ name node, w.entries (.backup name) = some node → w'.entries (.backup name) = some node

/-- The backup that is later than every other one. -/
def Newest (w : World) : Option BackupName → Prop
  | none => ∀ name, ¬ w.Has name
  | some newest => w.Has newest ∧ ∀ name, w.Has name → name ≠ newest → newest.later name = true

variable {w w' w'' : World}

lemma Keeps.trans (h : w.Keeps w') (h' : w'.Keeps w'') : w.Keeps w'' :=
  fun name node hnode => h' name node (h name node hnode)

/-- A directory under a new name comes after all of its instant. -/
lemma keeps_withBackup {name : BackupName} {node : Node} (hfresh : w.Fresh name)
    (hbackups : ∀ n, w'.entries (.backup n) = w.entries (.backup n)) :
    w.Keeps (w'.withBackup name node) := by
  intro n found hn
  have hne : n ≠ name := by
    rintro rfl
    rw [hfresh.absent] at hn
    cases hn
  rw [World.withBackup_of_ne hne, hbackups, hn]

lemma Ordered.withBackup {name : BackupName} {node : Node} (h : w.Ordered) (hfresh : w.Fresh name)
    (hbackups : ∀ n, w'.entries (.backup n) = w.entries (.backup n)) :
    (w'.withBackup name node).Ordered := by
  have hhas : ∀ n, (w'.withBackup name node).Has n → n = name ∨ w.Has n := by
    intro n hn
    by_cases hname : n = name
    · exact .inl hname
    · refine .inr ?_
      rwa [World.Has, World.withBackup_of_ne hname, hbackups] at hn
  intro a b ha hb hkey
  obtain ⟨hinstant, hsuffix⟩ := Prod.mk.inj hkey
  rcases hhas a ha with rfl | ha' <;> rcases hhas b hb with rfl | hb'
  · rfl
  · exact absurd (hfresh b hb' hinstant.symm) (by omega)
  · exact absurd (hfresh a ha' hinstant) (by omega)
  · exact h a b ha' hb' hkey

lemma Ordered.of_backups (h : w.Ordered)
    (hbackups : ∀ n, w'.entries (.backup n) = w.entries (.backup n)) : w'.Ordered := by
  intro a b ha hb
  simp only [Has, hbackups] at ha hb
  exact h a b ha hb

end World

/-! ## What a publisher keeps -/

/-- The order and the backups that were there. -/
structure InSequence (w w' : World) : Prop where
  ordered : w'.Ordered
  keeps : w.Keeps w'

variable {w w' : World} {kind : Dir → Prop}

lemma InSequence.trans {w'' : World} (h : InSequence w w') (h' : InSequence w' w'') :
    InSequence w w'' := ⟨h'.ordered, h.keeps.trans h'.keeps⟩

lemma InSequence.of_backups (h : w.Ordered)
    (hbackups : ∀ n, w'.entries (.backup n) = w.entries (.backup n)) : InSequence w w' :=
  ⟨h.of_backups hbackups, fun name _ hnode => (hbackups name).trans hnode⟩

lemma Progress.inSequence (h : Progress w kind w') (hw : w.Ordered) : InSequence w w' := by
  cases h with
  | unchanged => exact .of_backups hw fun _ => rfl
  | staged staging content _ => exact .of_backups hw fun _ => World.withStaging_backup
  | published name d _ hfresh =>
      exact ⟨hw.withBackup hfresh fun _ => rfl, World.keeps_withBackup hfresh fun _ => rfl⟩

lemma Moved.inSequence {source : BackupName} {retry : Nat}
    (h : Moved w (.nested source retry) w') (hw : w.Ordered) : InSequence w w' := by
  cases h with
  | unchanged => exact .of_backups hw fun _ => rfl
  | moved name node _ hfresh =>
      have hbackups : ∀ n, (w.setEntry (.nested source retry) none).entries (.backup n) =
          w.entries (.backup n) := by
        intro n
        simp [World.setEntry]
      exact ⟨hw.withBackup hfresh hbackups, World.keeps_withBackup hfresh hbackups⟩

/-- The functions that publish in the root. -/
inductive Publisher where
  | backup (stateManifestPath : List Nat) (tries : Nat)
  | publish (stateManifestPath : List Nat) (tries : Nat) (source : Source)
  | recover

/-- A call of a publisher. -/
def Publisher.run : Publisher → Run Unit
  | backup stateManifestPath tries => do
      let _ ← backupAgentRuntimeState stateManifestPath tries
      return ()
  | publish stateManifestPath tries source => do
      let _ ← publishLegacyBackup stateManifestPath tries source
      return ()
  | recover => do
      let _ ← recoverInterruptedLegacyPublications
      return ()

section calls

variable [SourceIdentity] {fault : Faults}

/-- One call, wherever it stops. -/
lemma safe_publisher (publisher : Publisher) (hw : w.Ordered) :
    Safe ⟨fun w' op => InSequence w w' ∧ op.InOrder w', Outcome fault⟩
      (fun w' _ => InSequence w w') (fun w' _ => InSequence w w') w publisher.run := by
  have hstart : InSequence w w := .of_backups hw fun _ => rfl
  cases publisher with
  | backup stateManifestPath tries =>
      refine safe_bind.mpr ((safe_mono_pre
        (safe_backupAgentRuntimeState stateManifestPath tries) ?_).mono ?_ ?_)
      · exact fun w' op h => ⟨h.1.inSequence hw, h.2⟩
      · rintro _ published ⟨hfresh, d, hd, rfl⟩
        exact (Progress.published published d hd hfresh).inSequence hw
      · exact fun w' _ h => h.1.inSequence hw
  | publish stateManifestPath tries source =>
      refine safe_bind.mpr ((safe_mono_pre
        (safe_publishLegacyBackup stateManifestPath tries source) ?_).mono ?_ ?_)
      · exact fun w' op h => ⟨h.1.inSequence hw, h.2⟩
      · rintro _ published ⟨hfresh, rfl, -⟩
        exact (Progress.published published _ rfl hfresh).inSequence hw
      · exact fun w' _ h => h.1.inSequence hw
  | recover =>
      refine safe_bind.mpr (safe_recoverInterruptedLegacyPublications
        (I := InSequence w) ?_ hstart)
      exact fun w₁ w₂ _ _ h₁ hmoved => h₁.trans (hmoved.inSequence h₁.ordered)

/-! ## Sequences of calls -/

/-- One call that returns, raises or is cut off; or something else than the backup root changes. -/
inductive Publishes (w w' : World) : Prop where
  | call (fault : Faults) (publisher : Publisher)
      (h : Stops (Outcome fault) (fun _ _ => True) publisher.run w w')
  | outside (h : w'.entries = w.entries)

lemma Publishes.inSequence (h : Publishes w w') (hw : w.Ordered) : InSequence w w' := by
  cases h with
  | call fault publisher h =>
      exact h.of_safe (safe_mono_pre (safe_publisher publisher hw) fun w' op h _ => h.1)
  | outside h => exact .of_backups hw fun n => by rw [h]

lemma inSequence_of_publishes (h : Relation.ReflTransGen Publishes w w') (hw : w.Ordered) :
    InSequence w w' := by
  induction h with
  | refl => exact .of_backups hw fun _ => rfl
  | tail _ hstep ih => exact ih.trans (hstep.inSequence ih.ordered)

/-! ## The newest backup -/

section newest

variable {entries : List (EntryName × Node)} {found : Option BackupName}

omit [SourceIdentity] in
lemma later_false_trans {a b c : BackupName} (hab : a.later b = false) (hbc : b.later c = false) :
    a.later c = false := by
  simp only [BackupName.later, Bool.or_eq_false_iff, Bool.and_eq_false_iff, decide_eq_false_iff_not,
    beq_eq_false_iff_ne] at hab hbc ⊢
  omega

omit [SourceIdentity] in
lemma later_asymm {a b : BackupName} (h : a.later b = true) : b.later a = false := by
  simp only [BackupName.later, Bool.or_eq_true, Bool.and_eq_true, decide_eq_true_eq, beq_iff_eq,
    Bool.or_eq_false_iff, Bool.and_eq_false_iff, decide_eq_false_iff_not,
    beq_eq_false_iff_ne] at h ⊢
  omega

omit [SourceIdentity] in
lemma later_self (a : BackupName) : a.later a = false := by
  simp [BackupName.later]

omit [SourceIdentity] in
/-- The newest of a list with one entry more. -/
lemma newestBackup_cons {name : BackupName} {d : Dir} (hd : d.metadata ≠ .absent)
    (entries : List (EntryName × Node)) :
    newestBackup ((.backup name, .dir d) :: entries) =
      (newestBackup entries).map fun found =>
        some (found.elim name fun newest => if newest.later name then newest else name) := by
  conv_lhs => unfold newestBackup
  split
  · rename_i h
    exact absurd h hd
  · cases newestBackup entries with
    | error e => rfl
    | ok found => cases found <;> rfl

omit [SourceIdentity] in
/-- The entries that `latest_backup` accepts. -/
lemma newestBackup_head {entry : EntryName} {node : Node}
    (h : newestBackup ((entry, node) :: entries) = .ok found) :
    ∃ name d, entry = .backup name ∧ node = .dir d ∧ d.metadata ≠ .absent := by
  cases entry with
  | backup name =>
      cases node with
      | dir d =>
          refine ⟨name, d, rfl, rfl, fun habsent => ?_⟩
          simp [newestBackup, habsent] at h
      | notDirectory => cases h
  | nested source retry => cases h
  | staging number => cases h
  | other text => cases h

omit [SourceIdentity] in
/-- The newest entry is one of them, and none is later. -/
lemma newestBackup_ok (h : newestBackup entries = .ok found) :
    (∀ item ∈ entries, ∃ name newest, item.1 = .backup name ∧ found = some newest ∧
      name.later newest = false) ∧
    ∀ newest, found = some newest → ∃ node, (.backup newest, node) ∈ entries := by
  induction entries generalizing found with
  | nil =>
      cases h
      exact ⟨fun _ hmem => absurd hmem List.not_mem_nil, fun _ hfound => by cases hfound⟩
  | cons first rest ih =>
      obtain ⟨entry, node⟩ := first
      obtain ⟨name, d, rfl, rfl, hd⟩ := newestBackup_head h
      rw [newestBackup_cons hd] at h
      cases hrest : newestBackup rest with
      | error e =>
          rw [hrest] at h
          cases h
      | ok others =>
          rw [hrest] at h
          cases h
          obtain ⟨hnone, hsome⟩ := ih hrest
          -- the entry in front against the newest of the rest
          cases others with
          | none =>
              refine ⟨fun item hitem => ?_, ?_⟩
              · rcases List.mem_cons.mp hitem with rfl | hitem'
                · exact ⟨name, name, rfl, rfl, later_self name⟩
                · obtain ⟨_, _, _, hfound, _⟩ := hnone item hitem'
                  cases hfound
              · rintro _ ⟨⟩
                exact ⟨.dir d, List.mem_cons_self⟩
          | some newest =>
              by_cases hlater : newest.later name = true
              · refine ⟨fun item hitem => ?_, ?_⟩
                · rcases List.mem_cons.mp hitem with rfl | hitem'
                  · exact ⟨name, newest, rfl, by simp [hlater], later_asymm hlater⟩
                  · obtain ⟨other, _, hother, ⟨⟩, hle⟩ := hnone item hitem'
                    exact ⟨other, newest, hother, by simp [hlater], hle⟩
                · rintro found hfound
                  obtain rfl : newest = found := by simpa [hlater] using hfound
                  obtain ⟨node, hmem⟩ := hsome newest rfl
                  exact ⟨node, List.mem_cons_of_mem _ hmem⟩
              · refine ⟨fun item hitem => ?_, ?_⟩
                · rcases List.mem_cons.mp hitem with rfl | hitem'
                  · exact ⟨name, name, rfl, by simp [hlater], later_self name⟩
                  · obtain ⟨other, _, hother, ⟨⟩, hle⟩ := hnone item hitem'
                    have hnot : newest.later name = false := by simpa using hlater
                    exact ⟨other, name, hother, by simp [hlater], later_false_trans hle hnot⟩
                · rintro found hfound
                  obtain rfl : name = found := by simpa [hlater] using hfound
                  exact ⟨.dir d, List.mem_cons_self⟩

omit [SourceIdentity] in
/-- Without two backups of one sort key, the newest is later than every other. -/
lemma World.Ordered.later (hw : w.Ordered) {name newest : BackupName} (hname : w.Has name)
    (hnewest : w.Has newest) (hle : name.later newest = false) (hne : name ≠ newest) :
    newest.later name = true := by
  by_contra hnot
  refine hne (hw name newest hname hnewest ?_)
  simp only [BackupName.later, Bool.or_eq_false_iff, Bool.and_eq_false_iff, decide_eq_false_iff_not,
    beq_eq_false_iff_ne, Bool.or_eq_true, Bool.and_eq_true, decide_eq_true_eq, beq_iff_eq]
    at hle hnot
  refine Prod.ext_iff.mpr ⟨?_, ?_⟩
  · show name.instant = newest.instant
    omega
  · show name.suffix = newest.suffix
    omega

/-- `latest_backup`. -/
lemma safe_latestBackup (pre : World → Op → Prop) (hpre : pre w .listRoot) (hw : w.Ordered) :
    Safe ⟨pre, Outcome fault⟩ (fun w' found => w' = w ∧ w.Newest found) (fun w' _ => w' = w) w
      latestBackup := by
  unfold latestBackup
  refine safe_bind.mpr (safe_listRoot.mpr ⟨hpre, fun entries hlists => ?_, fun _ _ => rfl⟩)
  refine safe_ofExcept.mpr ⟨fun found hfound => ⟨rfl, ?_⟩, fun _ _ => rfl⟩
  obtain ⟨hall, hmem⟩ := newestBackup_ok hfound
  have hlisted : ∀ name, w.Has name → ∃ newest, found = some newest ∧ name.later newest = false := by
    intro name hname
    obtain ⟨node, hnode⟩ := Option.isSome_iff_exists.mp hname
    obtain ⟨_, newest, heq, hnewest, hle⟩ := hall _ ((hlists _ _).mpr hnode)
    cases heq
    exact ⟨newest, hnewest, hle⟩
  cases found with
  | none =>
      intro name hname
      obtain ⟨_, hnewest, _⟩ := hlisted name hname
      cases hnewest
  | some newest =>
      obtain ⟨node, hnode⟩ := hmem newest rfl
      have hnewest : w.Has newest := Option.isSome_iff_exists.mpr ⟨node, (hlists _ _).mp hnode⟩
      refine ⟨hnewest, fun name hname hne => ?_⟩
      obtain ⟨_, ⟨⟩, hle⟩ := hlisted name hname
      exact hw.later hname hnewest hle hne

end newest

/-- No two backups share a sort key, whatever calls were made, returned, raised or were cut off.
While a call runs, a directory gets a canonical name only if it is newer than every backup of its
instant, and the backups that were there are what they were.  `latest_backup` finds the one backup
that is later than every other. -/
theorem backup_order_total {w₀ w : World} (h₀ : w₀.Ordered)
    (hcalls : Relation.ReflTransGen Publishes w₀ w) :
    w.Ordered ∧ w₀.Keeps w ∧
      (∀ (fault : Faults) (publisher : Publisher) op w', Interrupted (Outcome fault) publisher.run w op w' →
        w'.Ordered ∧ w.Keeps w' ∧ op.InOrder w') ∧
      ∀ (fault : Faults) found w', Ends (Outcome fault) latestBackup w (.ok found) w' → w.Newest found := by
  have hw := inSequence_of_publishes hcalls h₀
  refine ⟨hw.ordered, hw.keeps, ?_, ?_⟩
  · intro fault publisher op w' hcut
    obtain ⟨hseq, horder⟩ := hcut.of_safe (safe_publisher publisher hw.ordered)
    exact ⟨hseq.ordered, hseq.keeps, horder⟩
  · intro fault found w' hends
    exact (hends.of_safe (safe_latestBackup (fun _ _ => True) trivial hw.ordered)).2

/-! ## Executing the operations -/

/-- The entries of the root are among these. -/
def World.Within (w : World) (names : List EntryName) : Prop :=
  ∀ entry node, w.entries entry = some node → entry ∈ names

/-- An operation on a root whose entries are among these, at that time.  What would need another name
raises. -/
def answerWithin (names : List EntryName) (time : Int × Int) :
    (op : Op) → World → Except Raised op.Res × World
  | .outside _, w => (.ok (), w)
  | .now, w => (.ok time, w)
  | .nowIso, w => (.ok [], w)
  | .pending, w => (.ok w.pending, w)
  | .readFile file, w => (.ok (w.runtime file), w)
  | .readLegacy, w => (readAllLegacyBackups w.legacy, w)
  | .listRoot, w =>
      (.ok (names.filterMap fun entry => (w.entries entry).map fun node => (entry, node)), w)
  | .makeStaging, w =>
      if .staging 0 ∈ names ∧ (w.entries (.staging 0)).isNone then
        (.ok 0, w.setEntry (.staging 0) (some (.dir emptyDir)))
      else (.error .os, w)
  | .writeArtifact staging file bytes, w =>
      (.ok (), w.mapStaging staging fun d =>
        { d with artifact := Function.update d.artifact file (some bytes) })
  | .writeDiagnostic staging diagnostic bytes, w =>
      (.ok (), w.mapStaging staging fun d =>
        { d with diagnostics := Function.update d.diagnostics diagnostic (some bytes) })
  | .writeMetadata staging metadata, w =>
      (.ok (), w.mapStaging staging fun d => { d with metadata := .valid metadata })
  | .rename source target, w =>
      if target ∈ names then w.rename source target else (.error .os, w)
  | .removeStaging staging, w => (.ok (), w.setEntry (.staging staging) none)
  | .loadMetadata entry, w => (w.loadMetadata entry, w)
  | .validate name, w => (w.validate name, w)

section within

variable {names : List EntryName}

omit [SourceIdentity] in
lemma World.Within.setEntry {entry : EntryName} {node : Option Node} (h : w.Within names)
    (hentry : node ≠ none → entry ∈ names) : (w.setEntry entry node).Within names := by
  intro e found he
  by_cases heq : e = entry
  · subst heq
    refine hentry fun hnone => ?_
    rw [hnone] at he
    simp [World.setEntry] at he
  · rw [World.setEntry] at he
    simp only [Function.update_of_ne heq] at he
    exact h e found he

omit [SourceIdentity] in
lemma World.Within.mapStaging {staging : Nat} {f : Dir → Dir} (h : w.Within names) :
    (w.mapStaging staging f).Within names := by
  unfold World.mapStaging
  split
  · rename_i hentry
    exact h.setEntry fun _ => h _ _ hentry
  · exact h

omit [SourceIdentity] in
lemma World.Within.rename {source target : EntryName} (h : w.Within names)
    (htarget : target ∈ names) : (w.rename source target).2.Within names := by
  unfold World.rename
  split
  · exact h
  · rename_i node _
    have hmoved : ((w.setEntry source none).setEntry target (some node)).Within names :=
      World.Within.setEntry (World.Within.setEntry h (absurd rfl)) fun _ => htarget
    dsimp only
    split
    · exact hmoved
    · exact h
    · split
      · exact hmoved
      · exact h

/-- The executed answers are possible, and stay among the names. -/
lemma answerWithin_outcome (time : Int × Int) (op : Op) (w : World) (h : w.Within names) :
    Outcome (fun _ => True) w op (answerWithin names time op w).1 (answerWithin names time op w).2 ∧
      (answerWithin names time op w).2.Within names := by
  cases op with
  | outside step => exact ⟨⟨rfl, .inl rfl⟩, h⟩
  | now => exact ⟨⟨rfl, _, rfl⟩, h⟩
  | nowIso => exact ⟨⟨rfl, _, rfl⟩, h⟩
  | pending => exact ⟨⟨rfl, .inl rfl⟩, h⟩
  | readFile file => exact ⟨⟨rfl, .inl rfl⟩, h⟩
  | readLegacy => exact ⟨⟨rfl, .inl rfl⟩, h⟩
  | listRoot =>
      refine ⟨⟨rfl, .inl ⟨_, rfl, fun entry node => ?_⟩⟩, h⟩
      rw [List.mem_filterMap]
      constructor
      · rintro ⟨e, -, he⟩
        obtain ⟨n, hn, heq⟩ := Option.map_eq_some_iff.mp he
        cases heq
        exact hn
      · exact fun hentry => ⟨entry, h entry node hentry, by rw [hentry]; rfl⟩
  | makeStaging =>
      simp only [answerWithin]
      by_cases hfree : .staging 0 ∈ names ∧ (w.entries (.staging 0)).isNone
      · rw [if_pos hfree]
        refine ⟨.inl ⟨0, rfl, Option.isNone_iff_eq_none.mp hfree.2, rfl⟩, ?_⟩
        exact h.setEntry fun _ => hfree.1
      · rw [if_neg hfree]
        exact ⟨.inr ⟨trivial, ⟨_, rfl⟩, rfl⟩, h⟩
  | writeArtifact staging file bytes => exact ⟨.inl ⟨rfl, rfl⟩, h.mapStaging⟩
  | writeDiagnostic staging diagnostic bytes => exact ⟨.inl ⟨rfl, rfl⟩, h.mapStaging⟩
  | writeMetadata staging metadata => exact ⟨.inl ⟨rfl, rfl⟩, h.mapStaging⟩
  | rename source target =>
      simp only [answerWithin]
      by_cases htarget : target ∈ names
      · rw [if_pos htarget]
        exact ⟨.inl ⟨rfl, rfl⟩, h.rename htarget⟩
      · rw [if_neg htarget]
        exact ⟨.inr ⟨trivial, rfl, rfl⟩, h⟩
  | removeStaging staging => exact ⟨⟨rfl, .inl rfl⟩, h.setEntry (absurd rfl)⟩
  | loadMetadata entry => exact ⟨⟨rfl, .inl rfl⟩, h⟩
  | validate name => exact ⟨⟨rfl, .inl rfl⟩, h⟩

/-- A call that is executed is one of the calls. -/
lemma publishes_eval (time : Int × Int) (publisher : Publisher) (h : w.Within names) :
    Publishes w (eval (answerWithin names time) publisher.run w).2 ∧
      (eval (answerWithin names time) publisher.run w).2.Within names := by
  obtain ⟨hends, hwithin⟩ := ends_eval_of (answerWithin_outcome time) publisher.run w h
  exact ⟨.call _ publisher (.inl ⟨_, hends⟩), hwithin⟩

end within

end calls

/-! ## Two backups in one second -/

section sample

/-- An identity that tells the sources of the samples apart. -/
@[reducible] def sampleSourceIdentity : SourceIdentity where
  legacySourceIdentity _ digest _ _ := digest

attribute [local instance] sampleSourceIdentity

/-- A slot without files. -/
def emptyRoot : World where
  entries _ := none
  pending := none
  runtime _ := none
  legacy := { refused := false, entries := [] }

/-- The names of the first two backups of a second, with two offsets, and a staging directory. -/
def sampleNames : List EntryName :=
  [.backup { instant := 0, offset := 0, suffix := 1 },
    .backup { instant := 0, offset := 540, suffix := 2 }, .staging 0]

/-- The root after a backup, and the zone before the second one in that second changed. -/
def twiceBackedUp : World :=
  (eval (answerWithin sampleNames (0, 540)) (Publisher.backup [] 1).run
    (eval (answerWithin sampleNames (0, 0)) (Publisher.backup [] 1).run emptyRoot).2).2

theorem twiceBackedUp_ordered :
    twiceBackedUp.Has { instant := 0, offset := 0, suffix := 1 } ∧
      twiceBackedUp.Has { instant := 0, offset := 540, suffix := 2 } ∧ twiceBackedUp.Ordered := by
  have hempty : emptyRoot.Within sampleNames := fun _ _ h => by cases h
  obtain ⟨hfirst, hwithin⟩ := publishes_eval (0, 0) (.backup [] 1) hempty
  obtain ⟨hsecond, -⟩ := publishes_eval (0, 540) (.backup [] 1) hwithin
  refine ⟨by decide, by decide, ?_⟩
  exact (@backup_order_total _ emptyRoot _ (fun _ _ h => by cases h)
    (.tail (.tail .refl hfirst) hsecond)).1

end sample

end AgentRuntimeOps.BackupRoot
