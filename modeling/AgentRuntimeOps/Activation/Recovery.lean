import AgentRuntimeOps.Activation.Committed

/-!
# Recovery after any interruptions

`publish`, `publish_broker` and `recover` may be cut off before any step, in any number and order.
Each of their steps keeps `Recovering`, so that a last `recover` finds only what it can classify,
brings all six entries back to the baseline and marks the transaction as recovered.
-/

namespace AgentRuntimeOps.Activation

open AgentRuntimeOps.Lib Program

namespace Committed

/-- What a crash leaves behind. -/
def Stands (t : Committed) (fs : Fs) : Prop := ∃ v, t.Shows v fs ∧ t.Recovering v

/-- The invariant at a step, which the file system can make. -/
def Step (t : Committed) (fs : Fs) (op : Op) : Prop :=
  t.Stands fs ∧ ∃ r fs', Steps t.machine fs op r fs'

variable {t : Committed} {v : View} {fs fs' : Fs} {e : Identity} {E : Fs → Raised → Prop}

/-! ## Single steps -/

lemma safe_step {op : Op} {Q : Fs → op.Res → Prop} (h : t.Stands fs)
    (henabled : ∃ r fs', Steps t.machine fs op r fs')
    (hstep : ∀ r fs', Steps t.machine fs op r fs' → ∃ a, r = .ok a ∧ Q fs' a) :
    Safe ⟨t.Step, Steps t.machine⟩ Q E fs op.run := by
  refine safe_perform.mpr ⟨⟨h, henabled⟩, fun a fs' hr => ?_, fun e fs' hr => ?_⟩
  · obtain ⟨_, ⟨⟩, hQ⟩ := hstep _ _ hr
    exact hQ
  · obtain ⟨_, ⟨⟩, -⟩ := hstep _ _ hr

lemma safe_observe (h : t.Stands fs) :
    Safe ⟨t.Step, Steps t.machine⟩ (fun fs' found => found = fs ∧ fs' = fs) E fs
      Op.observe.run := by
  refine safe_step h ⟨.ok fs, fs, rfl, rfl⟩ ?_
  rintro r fs' ⟨rfl, rfl⟩
  exact ⟨fs', rfl, rfl, rfl⟩

lemma safe_readFs {α : Type} {f : Fs → Except Raised α} {Q : Fs → α → Prop} (h : t.Stands fs)
    (hok : ∀ a, f fs = .ok a → Q fs a) (herror : ∀ e, f fs = .error e → E fs e) :
    Safe ⟨t.Step, Steps t.machine⟩ Q E fs (readFs f) := by
  refine (safe_observe h).bind ?_
  rintro _ _ ⟨rfl, rfl⟩
  exact safe_ofExcept.mpr ⟨hok, herror⟩

/-- Reads that do not raise. -/
lemma safe_readFs_ok {α : Type} {f : Fs → Except Raised α} {a : α} (h : t.Stands fs)
    (hf : f fs = .ok a) :
    Safe ⟨t.Step, Steps t.machine⟩ (fun fs' b => b = a ∧ fs' = fs) E fs (readFs f) := by
  refine safe_readFs h (fun b hb => ?_) (fun e he => ?_)
  · rw [hf] at hb
    cases hb
    exact ⟨rfl, rfl⟩
  · rw [hf] at he
    cases he

lemma safe_fsync (h : t.Stands fs) :
    Safe ⟨t.Step, Steps t.machine⟩ (fun fs' _ => fs' = fs) E fs Op.fsync.run := by
  refine safe_step h ⟨.ok (), fs, rfl, rfl⟩ ?_
  rintro r fs' ⟨rfl, rfl⟩
  exact ⟨(), rfl, rfl⟩

/-- The loop of `os.write` writes its data, piece by piece. -/
lemma safe_writeAll {pre : Fs → Op → Prop} {resp : Answers Op Op.Res Raised Fs}
    {step : List UInt8 → Run Nat} {full : List UInt8} (P : List UInt8 → Fs → Prop)
    (hstep : ∀ done rest fs, done ++ rest = full → rest ≠ [] → P done fs →
      Safe ⟨pre, resp⟩ (fun fs' n => 1 ≤ n ∧ P (done ++ rest.take n) fs') E fs (step rest))
    (fuel : Nat) (done rest : List UInt8) (hfull : done ++ rest = full)
    (hfuel : rest.length ≤ fuel) (h : P done fs) :
    Safe ⟨pre, resp⟩ (fun fs' _ => P full fs') E fs (writeAll step fuel rest) := by
  induction fuel generalizing done rest fs with
  | zero =>
      obtain rfl : rest = [] := List.length_eq_zero_iff.mp (Nat.le_zero.mp hfuel)
      rw [← hfull, List.append_nil]
      exact h
  | succ fuel ih =>
      cases rest with
      | nil =>
          rw [← hfull, List.append_nil]
          exact h
      | cons byte rest =>
          refine (hstep done (byte :: rest) fs hfull (by simp) h).bind ?_
          rintro fs' n ⟨hn, hP⟩
          refine ih _ _ ?_ ?_ hP
          · rw [List.append_assoc, List.take_append_drop, hfull]
          · rw [List.length_drop]
            omega

/-! ## Steps on a staging path -/

/-- A regular file of root's on the staging path. -/
abbrev stagedFile (data : List UInt8) (mode gid : Nat) : Node :=
  .file { data := data, attr := { mode := mode, uid := 0, gid := gid, nlink := 1 } }

lemma staging_parent (p : Path) : (tempPath p).parts.dropLast = p.parts.dropLast := by
  simp [tempPath, Path.suffixed]

/-- The group of what is staged is one that recovery accepts. -/
lemma Shows.newGid_mem (h : t.Shows v fs) (hchanges : t.Changes e) :
    newGid t.machine fs (tempPath (t.manifest.path e)) = 0 ∨
      newGid t.machine fs (tempPath (t.manifest.path e)) = t.manifest.gid e := by
  have hisolation := t.prepared.isolation
  simp only [Activation.validateEndpointIsolation, except_bind_ok, check_ok, requireEach_ok]
    at hisolation
  obtain ⟨_, -, _, heach, -⟩ := hisolation
  obtain ⟨_, hchain, -⟩ := heach _ (List.mem_append_left _ (List.mem_map_of_mem e.mem_all))
  have hancestor : (t.manifest.path e).parts.dropLast ∈ ancestors (t.manifest.path e).parts := by
    rw [ancestors, List.mem_reverse, List.mem_inits]
  obtain ⟨node, hnode, hcontrolled⟩ := validateParentChain_ok.mp hchain _ hancestor
  obtain ⟨attr, rfl⟩ := isRootControlled_dir hcontrolled
  simp only [newGid, staging_parent, h.dir_node hnode]
  split_ifs with hmode
  · exact .inl t.group
  · exact (t.parents e attr hchanges hnode).resolve_left hmode

lemma Shows.stands (h : t.Shows v fs) (hr : t.Recovering v) : t.Stands fs := ⟨v, h, hr⟩

/-- A change of the staged file. -/
lemma Shows.changesFile {file : FileNode} (h : t.Shows (v.setTemp e (some (.file file))) fs)
    (change : FileNode → FileNode) :
    changesFile fs fs' (tempPath (t.manifest.path e)) change ↔
      fs' = fs.setNode (tempPath (t.manifest.path e)) (some (.file (change file))) := by
  have hnode : fs.node (t.staging e) = some (.file file) := by
    rw [h.temp]
    simp
  unfold Activation.changesFile
  constructor
  · rintro ⟨file', hfile', rfl⟩
    rw [hnode] at hfile'
    cases hfile'
    rfl
  · rintro rfl
    exact ⟨file, hnode, rfl⟩

lemma Shows.restage {node node' : Option Node} (h : t.Shows (v.setTemp e node) fs) :
    t.Shows (v.setTemp e node') (fs.setNode (tempPath (t.manifest.path e)) node') := by
  have hset := h.setTemp e node'
  rwa [View.setTemp_setTemp] at hset

section staging

variable {data full : List UInt8} {mode gid : Nat}

lemma safe_create (h : t.Shows v fs) (hr : t.Recovering v) (hfree : v.temp e = none) :
    Safe ⟨t.Step, Steps t.machine⟩
      (fun fs' _ => t.Shows (v.setTemp e (some
        (stagedFile [] 0o600 (newGid t.machine fs (tempPath (t.manifest.path e)))))) fs')
      E fs (Op.create (tempPath (t.manifest.path e))).run := by
  have hnone : fs.node (t.staging e) = none := (h.temp e).trans hfree
  have hiff : ∀ r fs', Steps t.machine fs (.create (tempPath (t.manifest.path e))) r fs' ↔
      r = .ok () ∧ fs' = fs.setNode (tempPath (t.manifest.path e)) (some
        (stagedFile [] 0o600 (newGid t.machine fs (tempPath (t.manifest.path e))))) := by
    intro r fs'
    simp only [Steps, hnone, if_true, t.mask, t.owner]
  refine safe_step (h.stands hr) ⟨_, _, (hiff _ _).mpr ⟨rfl, rfl⟩⟩ fun r fs' hstep => ?_
  obtain ⟨rfl, rfl⟩ := (hiff r fs').mp hstep
  exact ⟨(), rfl, h.setTemp e _⟩

lemma safe_write (h : t.Shows (v.setTemp e (some (stagedFile data mode gid))) fs)
    (hr : t.Recovering (v.setTemp e (some (stagedFile data mode gid)))) {rest : List UInt8}
    (hrest : rest ≠ []) :
    Safe ⟨t.Step, Steps t.machine⟩
      (fun fs' n => 1 ≤ n ∧
        t.Shows (v.setTemp e (some (stagedFile (data ++ rest.take n) mode gid))) fs')
      E fs (Op.write (tempPath (t.manifest.path e)) rest).run := by
  have hlength : 1 ≤ rest.length := List.length_pos_iff.mpr hrest
  refine safe_step (h.stands hr) ⟨.ok rest.length, _, rest.length, rfl, hlength, le_refl _,
    (h.changesFile _).mpr rfl⟩ ?_
  rintro r fs' ⟨n, rfl, hn, -, hchange⟩
  obtain rfl := (h.changesFile _).mp hchange
  exact ⟨n, rfl, hn, h.restage⟩

lemma safe_fchmod (h : t.Shows (v.setTemp e (some (stagedFile data mode gid))) fs)
    (hr : t.Recovering (v.setTemp e (some (stagedFile data mode gid)))) (mode' : Nat) :
    Safe ⟨t.Step, Steps t.machine⟩
      (fun fs' _ => t.Shows (v.setTemp e (some (stagedFile data mode' gid))) fs')
      E fs (Op.fchmod (tempPath (t.manifest.path e)) mode').run := by
  refine safe_step (h.stands hr) ⟨.ok (), _, rfl, (h.changesFile _).mpr rfl⟩ ?_
  rintro r fs' ⟨rfl, hchange⟩
  obtain rfl := (h.changesFile _).mp hchange
  exact ⟨(), rfl, h.restage⟩

lemma safe_fchown (h : t.Shows (v.setTemp e (some (stagedFile data mode gid))) fs)
    (hr : t.Recovering (v.setTemp e (some (stagedFile data mode gid)))) (gid' : Nat) :
    Safe ⟨t.Step, Steps t.machine⟩
      (fun fs' _ => t.Shows (v.setTemp e (some (stagedFile data mode gid'))) fs')
      E fs (Op.fchown (tempPath (t.manifest.path e)) 0 gid').run := by
  refine safe_step (h.stands hr) ⟨.ok (), _, rfl, (h.changesFile _).mpr rfl⟩ ?_
  rintro r fs' ⟨rfl, hchange⟩
  obtain rfl := (h.changesFile _).mp hchange
  exact ⟨(), rfl, h.restage⟩

lemma safe_symlink (h : t.Shows v fs) (hr : t.Recovering v) (hfree : v.temp e = none)
    (target : List Char) :
    Safe ⟨t.Step, Steps t.machine⟩
      (fun fs' _ => t.Shows (v.setTemp e (some
        (.symlink target 0 (newGid t.machine fs (tempPath (t.manifest.path e))) 1))) fs')
      E fs (Op.symlink target (tempPath (t.manifest.path e))).run := by
  have hnone : fs.node (t.staging e) = none := (h.temp e).trans hfree
  have hiff : ∀ r fs', Steps t.machine fs (.symlink target (tempPath (t.manifest.path e))) r fs' ↔
      r = .ok () ∧ fs' = fs.setNode (tempPath (t.manifest.path e)) (some
        (.symlink target 0 (newGid t.machine fs (tempPath (t.manifest.path e))) 1)) := by
    intro r fs'
    simp only [Steps, hnone, if_true, t.owner]
  refine safe_step (h.stands hr) ⟨_, _, (hiff _ _).mpr ⟨rfl, rfl⟩⟩ fun r fs' hstep => ?_
  obtain ⟨rfl, rfl⟩ := (hiff r fs').mp hstep
  exact ⟨(), rfl, h.setTemp e _⟩

lemma safe_lchown {target : List Char}
    (h : t.Shows (v.setTemp e (some (.symlink target 0 gid 1))) fs)
    (hr : t.Recovering (v.setTemp e (some (.symlink target 0 gid 1)))) (gid' : Nat) :
    Safe ⟨t.Step, Steps t.machine⟩
      (fun fs' _ => t.Shows (v.setTemp e (some (.symlink target 0 gid' 1))) fs')
      E fs (Op.lchown (tempPath (t.manifest.path e)) 0 gid').run := by
  have hnode : fs.node (t.staging e) = some (.symlink target 0 gid 1) := by
    rw [h.temp]
    simp
  refine safe_step (h.stands hr) ⟨.ok (), _, rfl, target, 0, gid, 1, hnode, rfl⟩ ?_
  rintro r fs' ⟨rfl, target', uid, gid₁, nlink, hnode', rfl⟩
  rw [hnode] at hnode'
  cases hnode'
  exact ⟨(), rfl, h.restage⟩

/-- What is staged becomes the entry. -/
lemma safe_replace {node : Option Node} (h : t.Shows (v.setTemp e node) fs)
    (hr : t.Recovering (v.setTemp e node)) (hfree : v.temp e = none) :
    Safe ⟨t.Step, Steps t.machine⟩ (fun fs' _ => t.Shows (v.setNode e node) fs')
      E fs (Op.replace (tempPath (t.manifest.path e)) (t.manifest.path e)).run := by
  have hnode : fs.node (t.staging e) = node := by
    rw [h.temp]
    simp
  refine safe_step (h.stands hr) ⟨.ok (), _, rfl, rfl⟩ ?_
  rintro r fs' ⟨rfl, rfl⟩
  refine ⟨(), rfl, ?_⟩
  rw [hnode]
  have hset := (h.setNode e node).setTemp e none
  rwa [View.setTemp_setNode_setTemp v e node node hfree] at hset

end staging

/-! ## Publishing one entry -/

lemma safe_requireFree (h : t.Shows v fs) (hr : t.Recovering v) (hfree : v.temp e = none) :
    Safe ⟨t.Step, Steps t.machine⟩ (fun fs' _ => fs' = fs) E fs
      (requireFree (tempPath (t.manifest.path e))) := by
  refine safe_readFs (h.stands hr) (fun _ _ => rfl) (fun raised hraised => ?_)
  rw [check_of ((h.temp e).trans hfree)] at hraised
  cases hraised

/-- An entry that is to be changed, with nothing staged for it. -/
structure Ready (t : Committed) (v : View) (e : Identity) : Prop where
  recovering : t.Recovering v
  marker : v.marker = none
  changes : t.Changes e
  free : v.temp e = none

lemma safe_publishRegular (h : t.Shows v fs) (hready : t.Ready v e) {variant : Variant}
    {data : List UInt8} (hdata : t.dataOf variant e = some data)
    (hnode : t.nodeOf variant e = some (stagedFile data (regularMode e) (t.manifest.gid e))) :
    Safe ⟨t.Step, Steps t.machine⟩
      (fun fs' _ => t.Shows (v.setNode e (t.nodeOf variant e)) fs') E fs
      (publishRegular (t.manifest.path e) data (regularMode e) 0 (t.manifest.gid e)) := by
  obtain ⟨hr, hmarker, hchanges, hfree⟩ := hready
  have hgid := h.newGid_mem hchanges
  generalize hnew : newGid t.machine fs (tempPath (t.manifest.path e)) = gid at hgid
  -- every state of the staged file may be discarded
  have hstaged : ∀ part mode gid, part <+: data → mode = 0o600 ∨ mode = regularMode e →
      gid = 0 ∨ gid = t.manifest.gid e →
      t.Recovering (v.setTemp e (some (stagedFile part mode gid))) :=
    fun part mode gid hpart hmode hgid =>
      hr.setTemp hmarker hchanges (.file hdata hpart hmode hgid)
  unfold publishRegular
  refine (safe_requireFree h hr hfree).bind ?_
  rintro _ _ rfl
  refine (safe_create h hr hfree).bind fun fs₁ _ h₁ => ?_
  rw [hnew] at h₁
  refine Safe.bind (safe_writeAll
    (fun done fs => done <+: data ∧ t.Shows (v.setTemp e (some (stagedFile done 0o600 gid))) fs)
    (fun done rest fs hfull hrest hP => ?_) data.length [] data
    (List.nil_append data) (le_refl _) ⟨List.nil_prefix, h₁⟩) ?_
  · refine (safe_write hP.2 (hstaged _ _ _ hP.1 (.inl rfl) hgid) hrest).mono ?_ fun _ _ h => h
    rintro fs' n ⟨hn, hshows⟩
    refine ⟨hn, ?_, hshows⟩
    rw [← hfull]
    exact List.prefix_append_right_inj _ |>.mpr (List.take_prefix n rest)
  rintro fs₂ _ ⟨-, h₂⟩
  have hself := List.prefix_refl data
  refine (safe_fchmod h₂ (hstaged _ _ _ hself (.inl rfl) hgid) _).bind fun fs₃ _ h₃ => ?_
  refine (safe_fchown h₃ (hstaged _ _ _ hself (.inr rfl) hgid) _).bind fun fs₄ _ h₄ => ?_
  have hlast := hstaged data _ _ hself (.inr rfl) (.inr rfl)
  refine (safe_fsync (h₄.stands hlast)).bind ?_
  rintro _ _ rfl
  refine (safe_fsync (h₄.stands hlast)).bind ?_
  rintro _ _ rfl
  refine (safe_replace h₄ hlast hfree).bind fun fs₅ _ h₅ => ?_
  rw [← hnode] at h₅
  refine (safe_fsync (h₅.stands (hr.setNode hmarker hchanges variant))).mono ?_ fun _ _ h => h
  rintro _ _ rfl
  exact h₅

lemma safe_publishSymlink (h : t.Shows v fs) (hready : t.Ready v e) {variant : Variant}
    {target : List Char} (htarget : (t.manifest.identity variant e).target? = some target)
    (hnode : t.nodeOf variant e = some (.symlink target 0 (t.manifest.gid e) 1)) :
    Safe ⟨t.Step, Steps t.machine⟩
      (fun fs' _ => t.Shows (v.setNode e (t.nodeOf variant e)) fs') E fs
      (publishSymlink (t.manifest.path e) target 0 (t.manifest.gid e)) := by
  obtain ⟨hr, hmarker, hchanges, hfree⟩ := hready
  have hgid := h.newGid_mem hchanges
  generalize hnew : newGid t.machine fs (tempPath (t.manifest.path e)) = gid at hgid
  have hstaged : ∀ gid, gid = 0 ∨ gid = t.manifest.gid e →
      t.Recovering (v.setTemp e (some (.symlink target 0 gid 1))) :=
    fun gid hgid => hr.setTemp hmarker hchanges (.link htarget hgid)
  unfold publishSymlink
  refine (safe_requireFree h hr hfree).bind ?_
  rintro _ _ rfl
  refine (safe_symlink h hr hfree target).bind fun fs₁ _ h₁ => ?_
  rw [hnew] at h₁
  refine (safe_lchown h₁ (hstaged gid hgid) _).bind fun fs₂ _ h₂ => ?_
  have hlast := hstaged _ (.inr rfl)
  refine (safe_fsync (h₂.stands hlast)).bind ?_
  rintro _ _ rfl
  refine (safe_replace h₂ hlast hfree).bind fun fs₃ _ h₃ => ?_
  rw [← hnode] at h₃
  refine (safe_fsync (h₃.stands (hr.setNode hmarker hchanges variant))).mono ?_ fun _ _ h => h
  rintro _ _ rfl
  exact h₃

/-- What is unlinked is flushed. -/
lemma safe_removeExisting {p : Path} (h : t.Stands fs) {v' : View} (hr' : t.Recovering v')
    (hshows : t.Shows v' (fs.setNode p none)) :
    Safe ⟨t.Step, Steps t.machine⟩ (fun fs' _ => t.Shows v' fs') E fs (removeExisting p) := by
  unfold removeExisting
  refine (safe_observe h).bind ?_
  rintro _ _ ⟨rfl, rfl⟩
  rename_i fs
  by_cases hsome : (fs.node p.parts).isSome = true
  · rw [if_pos hsome]
    have hunlink : Safe ⟨t.Step, Steps t.machine⟩ (fun fs' _ => t.Shows v' fs') E fs
        (Op.unlink p).run := by
      refine safe_step h ⟨.ok (), _, rfl, rfl⟩ ?_
      rintro r fs' ⟨rfl, rfl⟩
      exact ⟨(), rfl, hshows⟩
    refine hunlink.bind fun fs₁ _ h₁ => ?_
    refine (safe_fsync (h₁.stands hr')).mono ?_ fun _ _ h => h
    rintro _ _ rfl
    exact h₁
  · rw [if_neg hsome]
    have hnone : fs.node p.parts = none := by simpa using hsome
    have hsame : fs.setNode p none = fs := by
      simp only [Fs.setNode, ← hnone, Function.update_eq_self]
    rw [hsame] at hshows
    exact hshows

lemma safe_publishIdentity (h : t.Shows v fs) (hready : t.Ready v e) (variant : Variant) :
    Safe ⟨t.Step, Steps t.machine⟩
      (fun fs' _ => t.Shows (v.setNode e (t.nodeOf variant e)) fs') E fs
      (publishIdentity (t.manifest.path e) (t.manifest.identity variant e)
        (t.dataOf variant e)) := by
  have hrecords := t.records variant e
  have hnext := hready.recovering.setNode hready.marker hready.changes variant
  generalize hdata : t.dataOf variant e = data, hnode : t.nodeOf variant e = node,
    hidentity : t.manifest.identity variant e = identity at hrecords hnext ⊢
  cases hrecords with
  | absent =>
      exact safe_removeExisting (h.stands hready.recovering) hnext (h.setNode e none)
  | regular hkind hlen =>
      rw [← hnode]
      exact safe_publishRegular h hready hdata hnode
  | symlink hkind hsafe =>
      rw [← hnode]
      exact safe_publishSymlink h hready (by rw [hidentity]; rfl) hnode

/-- What publishing an entry leaves: the entry and its staging path apart, all is as it was. -/
structure Published (t : Committed) (v : View) (variant : Variant) (e : Identity) (v' : View) :
    Prop where
  recovering : t.Recovering v'
  temp : v'.temp = v.temp
  marker : v'.marker = v.marker
  others : ∀ e', e' ≠ e → v'.node e' = v.node e'
  restored : variant = .baseline → v'.node e = t.nodeOf .baseline e

lemma safe_publishEntry (h : t.Shows v fs) (hr : t.Recovering v) (hfree : v.temp e = none)
    (variant : Variant)
    (hmarker : v.marker = none ∨ (variant = .baseline ∧ t.Settled v)) :
    Safe ⟨t.Step, Steps t.machine⟩
      (fun fs' _ => ∃ v', t.Shows v' fs' ∧ t.Published v variant e v') E fs
      (publishEntry (t.dir v.marker) variant e) := by
  unfold publishEntry
  rw [t.payload_dir]
  refine safe_bind.mpr (safe_ofExcept.mpr ⟨?_, nofun⟩)
  rintro _ ⟨⟩
  refine Safe.bind (safe_readFs_ok (h.stands hr) (h.entryMatches variant e)) ?_
  rintro _ _ ⟨rfl, rfl⟩
  by_cases hmatch :
      matchesIdentity (v.node e) (t.manifest.identity variant e) (t.dataOf variant e) = true
  · rw [if_pos hmatch]
    refine ⟨v, h, hr, rfl, rfl, fun _ _ => rfl, ?_⟩
    rintro rfl
    exact (hr.entries e).eq_of_matches hmatch
  · rw [if_neg hmatch]
    have hchanges := (hr.entries e).changes_of_mismatch hmatch
    have hnone : v.marker = none := by
      rcases hmarker with hnone | ⟨rfl, hsettled⟩
      · exact hnone
      · rw [(hsettled e).1, matches_nodeOf] at hmatch
        exact absurd rfl hmatch
    refine (safe_publishIdentity h ⟨hr, hnone, hchanges, hfree⟩ variant).mono ?_ fun _ _ h => h
    intro fs' _ h'
    refine ⟨_, h', hr.setNode hnone hchanges variant, rfl, rfl, fun e' he => ?_, ?_⟩
    · simp [Function.update_of_ne he]
    · rintro rfl
      simp

/-- A loop over the entries, with what is known of those it has been through. -/
lemma safe_forEntries {pre : Fs → Op → Prop} {resp : Answers Op Op.Res Raised Fs}
    {step : Identity → Run Unit} (P : List Identity → Fs → Prop)
    (es done : List Identity)
    (hstep : ∀ e ∈ es, ∀ done fs, P done fs →
      Safe ⟨pre, resp⟩ (fun fs' _ => P (e :: done) fs') E fs (step e)) (h : P done fs) :
    Safe ⟨pre, resp⟩ (fun fs' _ => P (es.reverse ++ done) fs') E fs (forEntries step es) := by
  induction es generalizing done fs with
  | nil => exact h
  | cons e es ih =>
      refine (hstep e List.mem_cons_self done fs h).bind fun fs' _ h' => ?_
      rw [List.reverse_cons, List.append_assoc]
      exact ih (e :: done) (fun e' he' => hstep e' (List.mem_cons_of_mem _ he')) h'

/-! ## The commands -/

/-- A program that raises nothing but what leaves the invariant. -/
abbrev Keeps (t : Committed) (p : Run Unit) (fs : Fs) : Prop :=
  Safe ⟨t.Step, Steps t.machine⟩ (fun fs' _ => t.Stands fs') (fun fs' _ => t.Stands fs') fs p

/-- Something is staged for none of these entries, and the transaction is not recovered. -/
def Clear (t : Committed) (es : List Identity) (fs : Fs) : Prop :=
  ∃ v, t.Shows v fs ∧ t.Recovering v ∧ v.marker = none ∧ ∀ e ∈ es, v.temp e = none

lemma Clear.stands {es : List Identity} (h : t.Clear es fs) : t.Stands fs := by
  obtain ⟨v, hshows, hr, -⟩ := h
  exact ⟨v, hshows, hr⟩

/-- Publishing the candidate of an entry for which nothing is staged. -/
lemma safe_publishCandidate {es : List Identity} (h : t.Clear es fs) (he : e ∈ es) :
    Safe ⟨t.Step, Steps t.machine⟩ (fun fs' _ => t.Clear es fs') E fs
      (publishEntry (t.dir none) .candidate e) := by
  obtain ⟨v, hshows, hr, hmarker, hfree⟩ := h
  have hpublish := safe_publishEntry (E := E) hshows hr (hfree e he) .candidate (.inl hmarker)
  rw [hmarker] at hpublish
  refine hpublish.mono ?_ fun _ _ h => h
  rintro fs' _ ⟨v', hshows', hp⟩
  exact ⟨v', hshows', hp.recovering, hp.marker.trans hmarker, fun e he => by
    rw [hp.temp]
    exact hfree e he⟩

/-- The start of every command: the transaction is loaded. -/
lemma safe_load (h : t.Shows v fs) (hr : t.Recovering v) :
    Safe ⟨t.Step, Steps t.machine⟩ (fun fs' d => d = t.dir v.marker ∧ fs' = fs) E fs
      (readFs (loadTransaction t.args)) :=
  safe_readFs_ok (h.stands hr) (h.load hr)

/-- `publish` and `publish_broker` go on only if the transaction is not recovered. -/
lemma safe_unrecovered (h : t.Shows v fs) (hr : t.Recovering v) {message : String} :
    Safe ⟨t.Step, Steps t.machine⟩ (fun fs' _ => fs' = fs ∧ v.marker = none)
      (fun fs' _ => t.Stands fs') fs
      (Program.ofExcept (check ((t.dir v.marker).recovered = false) message)) := by
  refine safe_ofExcept.mpr ⟨fun _ hok => ⟨rfl, ?_⟩, fun _ _ => h.stands hr⟩
  rw [check_ok, recovered_txDir] at hok
  simpa using hok

lemma keeps_publish (h : t.Shows v fs) (hr : t.Recovering v) : t.Keeps (publish t.args) fs := by
  unfold Keeps publish
  refine (safe_load h hr).bind ?_
  rintro _ _ ⟨rfl, rfl⟩
  refine (safe_unrecovered h hr).bind ?_
  rintro fs _ ⟨rfl, hmarker⟩
  have hread : Safe ⟨t.Step, Steps t.machine⟩ (fun fs' _ => t.Clear Identity.entryNames fs')
      (fun fs' _ => t.Stands fs') fs
      (readFs fun fs => requireEach (checkUnpublished (t.dir v.marker) fs) Identity.entryNames) := by
    refine safe_readFs (h.stands hr) (fun _ hok => ?_) (fun _ _ => h.stands hr)
    rw [requireEach_ok] at hok
    refine ⟨v, h, hr, hmarker, fun e he => ?_⟩
    have hentry := hok e he
    simp only [checkUnpublished, except_bind_ok, check_ok] at hentry
    obtain ⟨_, -, _, -, hfree⟩ := hentry
    rw [← h.temp e]
    exact hfree
  refine hread.bind fun fs₁ _ h₁ => ?_
  rw [hmarker]
  refine (safe_forEntries (fun _ fs => t.Clear Identity.entryNames fs) Identity.entryNames []
    (fun e he _ fs hclear => safe_publishCandidate hclear he) h₁).mono ?_ fun _ _ h => h
  exact fun _ _ hclear => hclear.stands

lemma keeps_publishBroker (h : t.Shows v fs) (hr : t.Recovering v) :
    t.Keeps (publishBroker t.args) fs := by
  unfold Keeps publishBroker
  refine (safe_load h hr).bind ?_
  rintro _ _ ⟨rfl, rfl⟩
  refine (safe_unrecovered h hr).bind ?_
  rintro fs _ ⟨rfl, hmarker⟩
  have hread : Safe ⟨t.Step, Steps t.machine⟩ (fun fs' _ => t.Clear [.broker] fs')
      (fun fs' _ => t.Stands fs') fs (readFs (checkBrokerUnit (t.dir v.marker))) := by
    refine safe_readFs (h.stands hr) (fun _ hok => ?_) (fun _ _ => h.stands hr)
    simp only [checkBrokerUnit, except_bind_ok, check_ok] at hok
    obtain ⟨_, -, _, -, _, -, hfree⟩ := hok
    refine ⟨v, h, hr, hmarker, fun e he => ?_⟩
    obtain rfl := List.mem_singleton.mp he
    rw [← h.temp .broker]
    exact hfree
  refine hread.bind fun fs₁ _ h₁ => ?_
  rw [hmarker]
  refine (safe_publishCandidate h₁ List.mem_cons_self).mono ?_ fun _ _ h => h
  exact fun _ _ hclear => hclear.stands

/-! ## Recovering -/

/-- The marker is written when every entry is at its baseline. -/
lemma safe_setPhase (h : t.Shows v fs) (hsettled : t.Settled v) (hmarker : v.marker = none) :
    Safe ⟨t.Step, Steps t.machine⟩
      (fun fs' _ => ∃ marker, marker.attr = writtenAttr ∧ t.Shows (v.setMarker marker) fs')
      E fs setPhase := by
  have hr : t.Recovering v :=
    { entries := fun e => .inl (hsettled e)
      marker := fun file hfile => by
        rw [hmarker] at hfile
        cases hfile }
  have hwritten : ∀ data, t.Recovering (v.setMarker { data := data, attr := writtenAttr }) :=
    fun data => .setMarker hsettled rfl
  -- every step leaves the marker's attributes as they were created
  have hset : ∀ {fs : Fs} {data data' : List UInt8},
      t.Shows (v.setMarker { data := data, attr := writtenAttr }) fs →
      t.Shows (v.setMarker { data := data', attr := writtenAttr })
        (fs.setMarker { data := data', attr := writtenAttr }) := by
    intro fs data data' hshows
    exact hshows.setMarker _
  unfold setPhase
  refine (safe_observe (h.stands hr)).bind ?_
  rintro _ _ ⟨rfl, rfl⟩
  rename_i fs
  rw [h.marker?, hmarker]
  refine Safe.bind (Q := fun fs' _ =>
    t.Shows (v.setMarker { data := [], attr := writtenAttr }) fs') ?_ fun fs₁ _ h₁ => ?_
  · refine safe_step (h.stands hr) ⟨.ok (), _, rfl, rfl⟩ ?_
    rintro r fs' ⟨rfl, rfl⟩
    refine ⟨(), rfl, ?_⟩
    have hfresh := h.setMarker { data := [], attr := writtenAttr }
    rw [t.mask, t.owner, t.group]
    exact hfresh
  refine Safe.bind (Q := fun fs' _ =>
    t.Shows (v.setMarker { data := [], attr := writtenAttr }) fs') ?_ fun fs₂ _ h₂ => ?_
  · refine safe_step (h₁.stands (hwritten [])) ⟨.ok (), _, rfl, _, h₁.marker?, rfl⟩ ?_
    rintro r fs' ⟨rfl, file, hfile, rfl⟩
    rw [h₁.marker?] at hfile
    cases hfile
    exact ⟨(), rfl, hset h₁⟩
  refine Safe.bind (Q := fun fs' _ =>
    t.Shows (v.setMarker { data := [], attr := writtenAttr }) fs') ?_ fun fs₃ _ h₃ => ?_
  · refine safe_step (h₂.stands (hwritten [])) ⟨.ok (), _, rfl, _, h₂.marker?, rfl⟩ ?_
    rintro r fs' ⟨rfl, file, hfile, rfl⟩
    rw [h₂.marker?] at hfile
    cases hfile
    exact ⟨(), rfl, hset h₂⟩
  refine Safe.bind (safe_writeAll
    (fun done fs => t.Shows (v.setMarker { data := done, attr := writtenAttr }) fs)
    (fun done rest fs hfull hrest hP => ?_) markerText.length [] markerText
    (List.nil_append markerText) (le_refl _) h₃) fun fs₄ _ h₄ => ?_
  · have hlength : 1 ≤ rest.length := List.length_pos_iff.mpr hrest
    refine safe_step (hP.stands (hwritten done))
      ⟨.ok rest.length, _, rest.length, _, rfl, hlength, le_refl _, hP.marker?, rfl⟩ ?_
    rintro r fs' ⟨n, file, rfl, hn, -, hfile, rfl⟩
    rw [hP.marker?] at hfile
    cases hfile
    exact ⟨n, rfl, hn, hset hP⟩
  refine (safe_fsync (h₄.stands (hwritten _))).bind ?_
  rintro _ _ rfl
  refine (safe_fsync (h₄.stands (hwritten _))).mono ?_ fun _ _ h => h
  rintro _ _ rfl
  exact ⟨_, rfl, h₄⟩

lemma Shows.preflight (h : t.Shows v fs) (hr : t.Recovering v) (e : Identity) :
    preflightEntry (t.dir v.marker) fs e = .ok () := by
  have hstaged := (hr.entries e).staged
  have hsome := (hr.entries e).matches_some
  rw [← h.node e] at hsome
  rw [← h.temp e] at hstaged
  unfold preflightEntry
  simp only [t.payload_dir, except_bind_ok, check_ok, Bool.or_eq_true]
  exact ⟨_, rfl, _, rfl, (), hsome, hstaged.safe⟩

/-- While the staging paths are being cleared. -/
def Clearing (t : Committed) (marker : Option FileNode) (done : List Identity) (fs : Fs) : Prop :=
  ∃ v, t.Shows v fs ∧ t.Recovering v ∧ v.marker = marker ∧ ∀ e ∈ done, v.temp e = none

/-- While the baselines are being restored. -/
def Restoring (t : Committed) (marker : Option FileNode) (done : List Identity) (fs : Fs) : Prop :=
  ∃ v, t.Shows v fs ∧ t.Recovering v ∧ v.marker = marker ∧ (∀ e, v.temp e = none) ∧
    ∀ e ∈ done, v.node e = t.nodeOf .baseline e

lemma safe_clear {marker : Option FileNode} {done : List Identity} (e : Identity)
    (h : t.Clearing marker done fs) :
    Safe ⟨t.Step, Steps t.machine⟩ (fun fs' _ => t.Clearing marker (e :: done) fs') E fs
      (removeExisting (tempPath (t.manifest.path e))) := by
  obtain ⟨v, hshows, hr, hmarker, hdone⟩ := h
  refine (safe_removeExisting (hshows.stands hr) (hr.discard e) (hshows.setTemp e none)).mono ?_
    fun _ _ h => h
  intro fs' _ h'
  refine ⟨_, h', hr.discard e, hmarker, fun e' he' => ?_⟩
  by_cases heq : e' = e
  · subst heq
    simp
  · simpa [Function.update_of_ne heq] using hdone e' ((List.mem_cons.mp he').resolve_left heq)

lemma safe_restore {marker : Option FileNode} {done : List Identity} (e : Identity)
    (h : t.Restoring marker done fs) :
    Safe ⟨t.Step, Steps t.machine⟩ (fun fs' _ => t.Restoring marker (e :: done) fs') E fs
      (publishEntry (t.dir marker) .baseline e) := by
  obtain ⟨v, hshows, hr, rfl, hfree, hdone⟩ := h
  have hmarker : v.marker = none ∨ (Variant.baseline = .baseline ∧ t.Settled v) := by
    cases hmarker : v.marker with
    | none => exact .inl rfl
    | some file => exact .inr ⟨rfl, (hr.marker file hmarker).2⟩
  refine (safe_publishEntry hshows hr (hfree e) .baseline hmarker).mono ?_ fun _ _ h => h
  rintro fs' _ ⟨v', hshows', hp⟩
  refine ⟨v', hshows', hp.recovering, hp.marker, fun e' => ?_, fun e' he' => ?_⟩
  · rw [hp.temp]
    exact hfree e'
  · by_cases heq : e' = e
    · subst heq
      exact hp.restored rfl
    · rw [hp.others e' heq]
      exact hdone e' ((List.mem_cons.mp he').resolve_left heq)

/-- The baseline is there and marked, and a marker that was there is the same. -/
def Recovered (t : Committed) (marker : Option FileNode) (fs : Fs) : Prop :=
  ∃ v, t.Shows v fs ∧ t.Recovering v ∧ t.Settled v ∧ v.marker ≠ none ∧
    (marker ≠ none → v.marker = marker)

lemma safe_recover (h : t.Shows v fs) (hr : t.Recovering v) :
    Safe ⟨t.Step, Steps t.machine⟩ (fun fs' _ => t.Recovered v.marker fs') (fun _ _ => False) fs
      (recover t.args) := by
  unfold recover
  refine (safe_load h hr).bind ?_
  rintro fs _ ⟨rfl, rfl⟩
  refine Safe.bind (safe_readFs_ok (a := ()) (h.stands hr)
    (requireEach_ok.mpr fun e _ => h.preflight hr e)) ?_
  rintro fs _ ⟨-, rfl⟩
  refine (safe_forEntries (t.Clearing v.marker) Identity.all []
    (fun e _ done fs hclearing => safe_clear e hclearing) ⟨v, h, hr, rfl, nofun⟩).bind ?_
  rintro fs₁ _ ⟨v₁, h₁, hr₁, hmarker₁, hfree₁⟩
  have hfree : ∀ e, v₁.temp e = none := fun e => hfree₁ e (by simpa using e.mem_all)
  refine (safe_forEntries (t.Restoring v.marker) Identity.all []
    (fun e _ done fs hrestoring => safe_restore e hrestoring)
    ⟨v₁, h₁, hr₁, hmarker₁, hfree, nofun⟩).bind ?_
  rintro fs₂ _ ⟨v₂, h₂, hr₂, hmarker₂, hfree₂, hrestored⟩
  have hsettled : t.Settled v₂ := fun e => ⟨hrestored e (by simpa using e.mem_all), hfree₂ e⟩
  have hconverged : ∀ e, ∃ matching, entryMatches (t.dir v.marker) fs₂ .baseline e = .ok matching ∧
      matching = true := by
    intro e
    refine ⟨_, hmarker₂ ▸ h₂.entryMatches .baseline e, ?_⟩
    rw [(hsettled e).1]
    exact (t.records .baseline e).matches
  refine Safe.bind (safe_readFs_ok (a := ()) (h₂.stands hr₂)
    (requireEach_ok.mpr fun e _ => ?_)) ?_
  · simp only [except_bind_ok, check_ok]
    exact hconverged e
  rintro fs₂ _ ⟨-, rfl⟩
  rw [recovered_txDir]
  cases hmarker : v.marker with
  | some file =>
      rw [hmarker] at hmarker₂
      exact ⟨v₂, h₂, hr₂, hsettled, by rw [hmarker₂]; nofun, fun _ => hmarker₂⟩
  | none =>
      rw [hmarker] at hmarker₂
      refine (safe_setPhase h₂ hsettled hmarker₂).mono ?_ fun _ _ h => h
      rintro fs₃ _ ⟨marker, hattr, h₃⟩
      exact ⟨_, h₃, .setMarker hsettled hattr, hsettled, nofun, nofun⟩

/-! ## Any number of interrupted runs -/

end Committed

/-- The commands that change a committed transaction. -/
inductive Command where
  | publish
  | publishBroker
  | recover
  deriving DecidableEq, Repr

/-- The program of a command. -/
def Command.run (args : Args) : Command → Run Unit
  | publish => Activation.publish args
  | publishBroker => Activation.publishBroker args
  | recover => Activation.recover args

/-- Runs of the commands, one after the other, each of which may be cut off before any step. -/
def InterruptedRuns (machine : Machine) (args : Args) : Fs → Fs → Prop :=
  Relation.ReflTransGen fun fs fs' => ∃ command : Command,
    Stops (Steps machine) (fun _ _ => True) (command.run args) fs fs'

namespace Committed

variable {t : Committed} {v : View} {fs fs' : Fs}

lemma Recovered.stands {marker : Option FileNode} (h : t.Recovered marker fs) : t.Stands fs := by
  obtain ⟨v, hshows, hr, -⟩ := h
  exact ⟨v, hshows, hr⟩

/-- Whatever stops leaves the invariant. -/
lemma keeps_command (h : t.Stands fs) (command : Command) :
    t.Keeps (command.run t.args) fs := by
  obtain ⟨v, hshows, hr⟩ := h
  cases command with
  | publish => exact keeps_publish hshows hr
  | publishBroker => exact keeps_publishBroker hshows hr
  | recover =>
      exact (safe_recover hshows hr).mono (fun _ _ h => h.stands) fun _ _ h => h.elim

lemma Stands.of_runs (h : t.Stands fs) (hruns : InterruptedRuns t.machine t.args fs fs') :
    t.Stands fs' := by
  induction hruns with
  | refl => exact h
  | tail _ hstop ih =>
      obtain ⟨command, hstop⟩ := hstop
      exact hstop.of_safe (safe_mono_pre (keeps_command ih command) fun _ _ hstep _ => hstep.1)

lemma recover_ends (h : t.Stands fs) :
    ∃ x fs', Ends (Steps t.machine) (recover t.args) fs x fs' := by
  obtain ⟨v, hshows, hr⟩ := h
  exact exists_ends_of_safe (safe_recover hshows hr) fun _ _ hstep => hstep.2

lemma recovered_of_ends (h : t.Shows v fs) (hr : t.Recovering v) {x : Except Raised Unit}
    (hends : Ends (Steps t.machine) (recover t.args) fs x fs') :
    x = .ok () ∧ t.Recovered v.marker fs' := by
  have hsafe := safe_recover h hr
  cases x with
  | ok u => exact ⟨rfl, hends.of_safe hsafe⟩
  | error raised => exact (hends.of_safe_error hsafe).elim

end Committed

/-! ## The result -/

/-- From this file system a `recover` can end, and however it ends: it succeeds, every entry is as
in `fs₀`, nothing is staged, the transaction is in phase `recovered`, and another `recover`
succeeds and changes nothing. -/
structure RecoversTo (machine : Machine) (args : Args) (fs₀ : Fs) (path : Identity → Path)
    (fs : Fs) : Prop where
  ends : ∃ x fs', Ends (Steps machine) (recover args) fs x fs'
  succeeds : ∀ x fs', Ends (Steps machine) (recover args) fs x fs' → x = .ok ()
  baseline : ∀ x fs', Ends (Steps machine) (recover args) fs x fs' →
    ∀ e, fs'.node (path e).parts = fs₀.node (path e).parts
  unstaged : ∀ x fs', Ends (Steps machine) (recover args) fs x fs' →
    ∀ e, fs'.node (tempPath (path e)).parts = none
  phase : ∀ x fs', Ends (Steps machine) (recover args) fs x fs' →
    ∃ d, fs'.pending = some d ∧ d.recovered = true
  again : ∀ x fs', Ends (Steps machine) (recover args) fs x fs' →
    (∃ x' fs'', Ends (Steps machine) (recover args) fs' x' fs'') ∧
      ∀ x' fs'', Ends (Steps machine) (recover args) fs' x' fs'' → x' = .ok () ∧ fs'' = fs'

lemma Committed.recoversTo {t : Committed} {fs : Fs} (h : t.Stands fs) :
    RecoversTo t.machine t.args t.fs t.manifest.path fs := by
  obtain ⟨v, hshows, hr⟩ := h
  refine {
    ends := Committed.recover_ends ⟨v, hshows, hr⟩
    succeeds := fun x fs' hends => (Committed.recovered_of_ends hshows hr hends).1
    baseline := fun x fs' hends e => ?_
    unstaged := fun x fs' hends e => ?_
    phase := fun x fs' hends => ?_
    again := fun x fs' hends => ?_ }
  all_goals
    obtain ⟨-, v', hshows', hr', hsettled, hmarker, -⟩ :=
      Committed.recovered_of_ends hshows hr hends
  · exact (hshows'.node e).trans (hsettled e).1
  · exact (hshows'.temp e).trans (hsettled e).2
  · refine ⟨_, hshows'.pending, ?_⟩
    rw [recovered_txDir]
    exact Option.isSome_iff_ne_none.mpr hmarker
  · refine ⟨Committed.recover_ends ⟨v', hshows', hr'⟩, fun x' fs'' hends' => ?_⟩
    obtain ⟨hx', v'', hshows'', -, hsettled'', -, hsame⟩ :=
      Committed.recovered_of_ends hshows' hr' hends'
    obtain rfl := hsettled.unique hsettled'' (hsame hmarker)
    exact ⟨hx', hshows'.unique hshows''⟩

/-- What recovery needs beyond a committed transaction: the transaction can be loaded, new files
are root's and readable by root, a directory that hands its group to new files hands one that
recovery accepts, and the paths are different files however they are spelled. -/
structure Recoverable (machine : Machine) (args : Args) (fs : Fs) (d : TxDir) : Prop where
  loadable : Loadable machine args
  group : machine.egid = 0
  mask : 0o600 &&& machine.umask = 0
  distinct : ((visiblePaths d.manifest.path).map Path.parts).Nodup
  parents : ∀ e attr, d.manifest.baseline e ≠ d.manifest.candidate e →
    fs.node (d.manifest.path e).parts.dropLast = some (.dir attr) →
    attr.mode &&& 0o2000 = 0 ∨ attr.gid = 0 ∨ attr.gid = d.manifest.gid e

lemma begin_euid {machine : Machine} {args : Args} {fs fs' : Fs}
    (h : begin machine args fs = .ok fs') : machine.euid = 0 := by
  simp only [begin, prepare, except_bind_ok, check_ok] at h
  obtain ⟨_, ⟨_, howner, -⟩, -⟩ := h
  exact howner

lemma committed_of_begin {machine : Machine} {args : Args} {fs₀ fs₁ : Fs} {d : TxDir}
    (hbegin : begin machine args fs₀ = .ok fs₁) (hd : fs₁.pending = some d)
    (hcond : Recoverable machine args fs₁ d) :
    ∃ t : Committed, t.machine = machine ∧ t.args = args ∧ t.fs = fs₀ ∧
      t.manifest = d.manifest ∧ t.Stands fs₁ := by
  have howner := begin_euid hbegin
  obtain ⟨m, root, baseline, payloads, hprepared, rfl⟩ := begin_ok hbegin
  have hloads := hprepared.loads_iff.mpr hcond.loadable
  rw [hcond.loadable.links] at hloads hd hcond
  cases hd
  let t : Committed :=
    { machine, args, root, baseline, payloads
      -- `begin` has changed nothing but the transaction directory
      fs := fs₀
      manifest := m
      prepared := hprepared
      loads := hloads
      owner := howner
      group := hcond.group
      mask := by simp only [newMode, hcond.mask]
      distinct := hcond.distinct
      parents := hcond.parents }
  refine ⟨t, rfl, rfl, rfl, rfl, { node := t.nodeOf .baseline, temp := fun _ => none, marker := none },
    ⟨fun _ => rfl, hprepared.temps, fun _ _ => rfl, ?_, rfl, rfl⟩, ⟨fun _ => .inl ⟨rfl, rfl⟩, nofun⟩⟩
  rw [hcond.loadable.links]

/-- Where `Recoverable` holds after `begin`, recovery reaches the baseline after any interrupted
runs. -/
theorem recover_reaches_baseline {machine : Machine} {args : Args} {fs₀ fs₁ fs : Fs} {d : TxDir}
    (hbegin : begin machine args fs₀ = .ok fs₁) (hd : fs₁.pending = some d)
    (hcond : Recoverable machine args fs₁ d) (hruns : InterruptedRuns machine args fs₁ fs) :
    RecoversTo machine args fs₀ d.manifest.path fs := by
  obtain ⟨t, rfl, rfl, rfl, hmanifest, hstands⟩ := committed_of_begin hbegin hd hcond
  rw [← hmanifest]
  exact Committed.recoversTo (hstands.of_runs hruns)

section samples

/-- A directory hands its group to new files when its set-group-ID bit is set. -/
def handsNoGroup : Node → Bool
  | .dir attr => attr.mode &&& 0o2000 == 0
  | _ => true

/-- No directory of the sample hands its group to new files. -/
lemma sample_dirs {parts : List Name} {attr : Attr}
    (h : (sampleFs 'b').node parts = some (.dir attr)) : attr.mode &&& 0o2000 = 0 := by
  have hall : (sampleNodes 'b').all (fun found => handsNoGroup found.2) = true := by decide
  obtain ⟨front, rest, hnodes, -⟩ := List.lookup_eq_some_iff.mp h
  have hmem : (parts, Node.dir attr) ∈ sampleNodes 'b' := by
    rw [hnodes]
    simp
  exact eq_of_beq (List.all_eq_true.mp hall _ hmem)

/-- The paths of a configuration are different, where they and the broker's path are well formed. -/
def distinctPaths : Except Raised (Identity → Path) → Except Raised Path → Bool
  | .ok paths, .ok unit => decide (((visiblePaths (withBroker paths unit)).map Path.parts).Nodup)
  | _, _ => false

lemma upgrade_recoverable {fs₁ : Fs} {d : TxDir}
    (hbegin : begin sampleMachine (sampleArgs 'b') (sampleFs 'b') = .ok fs₁)
    (hd : fs₁.pending = some d) : Recoverable sampleMachine (sampleArgs 'b') fs₁ d := by
  obtain ⟨m, root, baseline, payloads, hprepared, rfl⟩ := begin_ok hbegin
  cases hd
  obtain ⟨paths, hpaths, hsame⟩ := hprepared.paths
  have hpath : m.path = withBroker paths (m.path .broker) := by
    funext e
    cases e with
    | broker => rfl
    | _ => exact hsame _ (by decide)
  have hnodup : distinctPaths (configFromArgs (sampleArgs 'b'))
      (safeAbsolute ((sampleArgs 'b').link .broker) "broker_unit") = true := by decide
  rw [hpaths, hprepared.unit] at hnodup
  exact {
    loadable := upgrade_loadable
    group := rfl
    mask := rfl
    distinct := by
      change ((visiblePaths m.path).map Path.parts).Nodup
      rw [hpath]
      exact of_decide_eq_true hnodup
    parents := fun e attr _ hdir => .inl (sample_dirs hdir) }

theorem upgrade_recovers :
    ∃ fs₁ d fs, begin sampleMachine (sampleArgs 'b') (sampleFs 'b') = .ok fs₁ ∧
      fs₁.pending = some d ∧ Recoverable sampleMachine (sampleArgs 'b') fs₁ d ∧
      (∃ x, Ends (Steps sampleMachine) (publish (sampleArgs 'b')) fs₁ x fs) ∧
      RecoversTo sampleMachine (sampleArgs 'b') (sampleFs 'b') d.manifest.path fs := by
  obtain ⟨fs₁, hbegin⟩ := upgrade_begins
  obtain ⟨d, hd⟩ : ∃ d, fs₁.pending = some d := by
    obtain ⟨m, root, baseline, payloads, -, rfl⟩ := begin_ok hbegin
    exact ⟨_, rfl⟩
  have hcond := upgrade_recoverable hbegin hd
  obtain ⟨x, fs, hends⟩ : ∃ x fs, Ends (Steps sampleMachine) (publish (sampleArgs 'b')) fs₁ x fs := by
    obtain ⟨t, hmachine, hargs, -, -, hstands⟩ := committed_of_begin hbegin hd hcond
    rw [← hmachine, ← hargs]
    exact exists_ends_of_safe (Committed.keeps_command hstands .publish) fun _ _ hstep => hstep.2
  refine ⟨fs₁, d, fs, hbegin, hd, hcond, ⟨x, hends⟩, recover_reaches_baseline hbegin hd hcond ?_⟩
  exact .single ⟨.publish, .inl ⟨x, hends⟩⟩

theorem reinstall_does_not_recover :
    ∃ fs₁ d, begin sampleMachine (sampleArgs 'a') (sampleFs 'a') = .ok fs₁ ∧
      fs₁.pending = some d ∧ InterruptedRuns sampleMachine (sampleArgs 'a') fs₁ fs₁ ∧
      ¬ RecoversTo sampleMachine (sampleArgs 'a') (sampleFs 'a') d.manifest.path fs₁ := by
  obtain ⟨fs₁, hbegin, raised, hload⟩ := reinstall_begins
  obtain ⟨d, hd⟩ : ∃ d, fs₁.pending = some d := by
    obtain ⟨m, root, baseline, payloads, -, rfl⟩ := begin_ok hbegin
    exact ⟨_, rfl⟩
  refine ⟨fs₁, d, hbegin, hd, .refl, fun h => ?_⟩
  have hends : Ends (Steps sampleMachine) (recover (sampleArgs 'a')) fs₁ (.error raised) fs₁ := by
    refine .next (r := .ok fs₁) ⟨rfl, rfl⟩ ?_
    dsimp only [Program.bind]
    rw [hload]
    exact .refl _ _
  cases h.succeeds _ _ hends

end samples

end AgentRuntimeOps.Activation
