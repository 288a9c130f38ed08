import Mathlib
import AgentRuntimeOps.Runtime.DevSource

/-!
# The dashboard of a staged output

A sync that completes leaves a dashboard where its dist has one, or where it is `--runtime-only` and
found one in the output it replaced.  Between the two renames of the swap there is no output: a
later sync that starts there finds no dashboard to keep.
-/

namespace AgentRuntimeOps.Runtime.DevSource

open AgentRuntimeOps.Lib

/-! ## What the operations leave alone -/

/-- The names that an operation may change. -/
def Op.touches : Op → List Name
  | .mkdir name _ | .create name _ | .append name _ _ | .chown name _ _ _ | .chmod name _ _
  | .remove name _ => [name]
  | .replace source target => [source, target]
  | _ => []

/-- The operation leaves a name alone. -/
def Op.Spares (name : Name) (op : Op) : Prop := name ∉ op.touches

lemma Stage.put_other {s : Stage} {name other : Name} (h : other ≠ name) (place : Option Place) :
    (s.put name place).places other = s.places other := Function.update_of_ne h _ _

@[simp] lemma Stage.put_same (s : Stage) (name : Name) (place : Option Place) :
    (s.put name place).places name = place := Function.update_self name _ _

lemma Stage.inTree_other {s : Stage} {name other : Name} (h : other ≠ name)
    (f : Tree → Option Tree) : (s.inTree name f).2.places other = s.places other := by
  unfold inTree
  split
  · split
    · exact put_other h _
    · rfl
  · rfl

lemma Stage.atRoot_places (s : Stage) (f : Root → Option Root) (name : Name) :
    (s.atRoot f).2.places name = s.places name := by
  unfold atRoot
  split
  · rfl
  · rfl

/-- What an operation spares stays as it is. -/
lemma Stage.exec_spares {name : Name} {op : Op} (h : op.Spares name) (s : Stage) :
    (exec op s).2.places name = s.places name := by
  unfold Op.Spares Op.touches at h
  cases op with
  | runtimeIds => rfl
  | rootExists => rfl
  | rootIsLink => rfl
  | mkdirRoot => exact atRoot_places s _ name
  | chownRoot uid gid => exact atRoot_places s _ name
  | chmodRoot mode => exact atRoot_places s _ name
  | resolvesInside other => rfl
  | present other path => rfl
  | isFile other path => rfl
  | isLink other path => rfl
  | list other path follow => rfl
  | mkdir other path =>
      have hne : name ≠ other := fun heq => h (List.mem_singleton.mpr heq)
      show (s.mkdir other path).2.places name = _
      unfold mkdir
      split
      · split
        · exact put_other hne _
        · rfl
      · exact inTree_other hne _
  | create other path => exact inTree_other (fun heq => h (List.mem_singleton.mpr heq)) _
  | append other path block => exact inTree_other (fun heq => h (List.mem_singleton.mpr heq)) _
  | chown other path uid gid => exact inTree_other (fun heq => h (List.mem_singleton.mpr heq)) _
  | chmod other path mode => exact inTree_other (fun heq => h (List.mem_singleton.mpr heq)) _
  | remove other path =>
      have hne : name ≠ other := fun heq => h (List.mem_singleton.mpr heq)
      show (s.removeEntry other path).2.places name = _
      unfold removeEntry
      split
      · split
        · exact put_other hne _
        · rfl
      · exact inTree_other hne _
  | replace source target =>
      have hsource : name ≠ source := by
        rintro rfl
        exact h List.mem_cons_self
      have htarget : name ≠ target := by
        rintro rfl
        exact h (List.mem_cons_of_mem _ List.mem_cons_self)
      show (s.replace source target).2.places name = _
      unfold replace
      split
      · rfl
      · split
        · rw [put_other htarget, put_other hsource]
        · rfl

lemma Stage.answers_spares {name : Name} {s s' : Stage} {op : Op} {r : Except SyncRaised op.Res}
    (h : op.Spares name) (hr : Answers s op r s') : s'.places name = s.places name := by
  rcases hr with ⟨-, rfl⟩ | ⟨-, rfl⟩
  · exact exec_spares h s
  · rfl

open Program

/-- A program whose operations all spare a name leaves it alone, wherever it stops. -/
lemma safe_spares {α : Type} {p : Run α} {name : Name} (hp : AllOps (Op.Spares name) p) (s : Stage) :
    Safe ⟨fun s' _ => s'.places name = s.places name, Stage.Answers⟩
      (fun s' _ => s'.places name = s.places name) (fun s' _ => s'.places name = s.places name) s
      p := by
  refine safe_mono_pre
    (safe_invariant (I := fun s' : Stage => s'.places name = s.places name) hp ?_ rfl)
    fun _ _ h => h.1
  intro w op r w' hop hw hr
  exact (Stage.answers_spares hop hr).trans hw

/-! ## The programs that spare a name -/

section spares

variable {name other : Name}

lemma spares_singleton {op : Op} (h : op.touches = [other]) (hne : name ≠ other) :
    op.Spares name := by
  unfold Op.Spares
  rw [h]
  exact fun hmem => hne (List.mem_singleton.mp hmem)

lemma spares_nil {op : Op} (h : op.touches = []) : op.Spares name := by
  unfold Op.Spares
  rw [h]
  exact List.not_mem_nil

lemma spares_rmtree (hne : name ≠ other) (path : RelPath) :
    AllOps (Op.Spares name) (rmtree other path) := by
  refine allOps_bind (allOps_perform.mpr (spares_nil rfl)) fun isLink => ?_
  cases isLink with
  | true => exact allOps_throw _
  | false =>
      refine allOps_bind (allOps_perform.mpr (spares_nil rfl)) fun entries => ?_
      refine allOps_bind (allOps_forEach (fun item => ?_) _) fun _ => allOps_pure _
      exact allOps_perform.mpr (spares_singleton rfl hne)

lemma spares_rmtreeIfPresent (hne : name ≠ other) (path : RelPath) :
    AllOps (Op.Spares name) (rmtreeIfPresent other path) := by
  refine allOps_bind (allOps_perform.mpr (spares_nil rfl)) fun present => ?_
  cases present with
  | true => exact spares_rmtree hne path
  | false => exact allOps_pure _

lemma spares_attempted {step : Run Unit} (h : AllOps (Op.Spares name) step) :
    AllOps (Op.Spares name) (attempted step) :=
  allOps_tryCatch (allOps_bind h fun _ => allOps_pure _) fun _ => allOps_pure _

lemma spares_copyItem (hne : name ≠ other) (path : RelPath) (item : RelPath × Entry) :
    AllOps (Op.Spares name) (copyItem other path item) := by
  unfold copyItem
  split
  · exact allOps_perform.mpr (spares_singleton rfl hne)
  · refine allOps_bind (allOps_perform.mpr (spares_singleton rfl hne)) fun _ => ?_
    refine allOps_bind (allOps_bind (allOps_forEach (fun block => ?_) _) fun _ => allOps_pure _)
      fun _ => ?_
    · exact allOps_perform.mpr (spares_singleton rfl hne)
    · exact allOps_perform.mpr (spares_singleton rfl hne)
  · exact allOps_throw _

lemma spares_copytree (hne : name ≠ other) (source : Tree) (path : RelPath) :
    AllOps (Op.Spares name) (copytree source other path) := by
  refine allOps_bind (allOps_perform.mpr (spares_singleton rfl hne)) fun _ => ?_
  refine allOps_bind (allOps_forEach (fun item => spares_attempted (spares_copyItem hne path item)) _)
    fun copied => ?_
  refine allOps_bind (allOps_forEach (fun item => spares_attempted ?_) _) fun stamped => ?_
  · exact allOps_perform.mpr (spares_singleton rfl hne)
  · split
    · exact allOps_pure _
    · exact allOps_throw _

lemma spares_preserveControlUi (call : SyncCall) (hne : name ≠ .tmp call.pid) :
    AllOps (Op.Spares name) (preserveControlUi call) := by
  unfold preserveControlUi
  split
  · exact allOps_pure _
  · refine allOps_bind (allOps_perform.mpr (spares_nil rfl)) fun present => ?_
    split
    · exact allOps_pure _
    · refine allOps_bind (allOps_perform.mpr (spares_nil rfl)) fun isLink => ?_
      split
      · exact allOps_pure _
      · refine allOps_bind (allOps_perform.mpr (spares_nil rfl)) fun inTmp => ?_
        split
        · exact allOps_pure _
        · refine allOps_bind (allOps_perform.mpr (spares_nil rfl)) fun inDest => ?_
          split
          · exact allOps_pure _
          · refine allOps_bind (spares_rmtreeIfPresent hne _) fun _ => ?_
            refine allOps_bind (allOps_perform.mpr (spares_nil rfl)) fun current => ?_
            exact allOps_bind (spares_copytree hne _ _) fun _ => allOps_pure _

end spares

/-- The operations of `chmod_source_tree`. -/
lemma allOps_chmodSourceTree {P : Op → Prop} {name : Name} (hlist : P (.list name [] false))
    (hchown : ∀ path uid gid, P (.chown name path uid gid))
    (hchmod : ∀ path mode, P (.chmod name path mode)) (uid gid : Nat) :
    AllOps P (chmodSourceTree name uid gid) := by
  have hnormalize : ∀ item, AllOps P (normalize name uid gid item) := fun item =>
    allOps_bind (allOps_perform.mpr (hchown _ _ _)) fun _ => allOps_perform.mpr (hchmod _ _)
  refine allOps_bind (allOps_perform.mpr hlist) fun entries => ?_
  refine allOps_bind (allOps_forEach (fun dir => ?_) _) fun _ => allOps_pure _
  refine allOps_bind (hnormalize dir) fun _ => ?_
  refine allOps_bind (allOps_bind (allOps_forEach hnormalize _) fun _ => allOps_pure _) fun _ => ?_
  exact allOps_bind (allOps_forEach hnormalize _) fun _ => allOps_pure _

/-! ## Files of a tree -/

namespace Tree

lemma isFile_add (tree : Tree) (path : RelPath) (entry : Entry) (q : RelPath) :
    (tree.add path entry).isFile q = (tree.isFile q || (path == q && entry.kind.isFile)) := by
  unfold isFile add
  rw [List.any_append, List.any_cons, List.any_nil, Bool.or_false]

/-- What does not change the kind of an entry keeps the files. -/
lemma isFile_change (tree : Tree) (path : RelPath) {f : Entry → Entry}
    (hf : ∀ entry, (f entry).kind.isFile = entry.kind.isFile) (q : RelPath) :
    (tree.change path f).isFile q = tree.isFile q := by
  unfold isFile change
  rw [List.any_map]
  congr 1
  funext item
  simp only [Function.comp_apply]
  split
  · rw [hf]
  · rfl

/-- A file that is emptied is still a file. -/
lemma isFile_change_of_isFile {tree : Tree} {path : RelPath} (h : tree.isFile path = true)
    {f : Entry → Entry} (hf : ∀ entry, (f entry).kind.isFile = true) (q : RelPath) :
    (tree.change path f).isFile q = tree.isFile q := by
  by_cases hq : q = path
  · subst hq
    rw [h]
    unfold isFile at h ⊢
    obtain ⟨item, hitem, heq⟩ := List.any_eq_true.mp h
    rw [Bool.and_eq_true, beq_iff_eq] at heq
    refine List.any_eq_true.mpr ⟨(item.1, f item.2), List.mem_map.mpr ⟨item, hitem, ?_⟩, ?_⟩
    · rw [if_pos heq.1]
    · rw [Bool.and_eq_true, beq_iff_eq]
      exact ⟨heq.1, hf _⟩
  · unfold isFile change
    rw [List.any_map]
    congr 1
    funext item
    simp only [Function.comp_apply]
    split
    · rename_i hpath
      have hother : (item.1 == q) = false := beq_eq_false_iff_ne.mpr (hpath ▸ Ne.symm hq)
      simp only [hother, Bool.false_and]
    · rfl

/-- The files below a path, seen from there. -/
lemma any_below (tree : Tree) (path rest : RelPath) :
    (tree.below path).any (fun item => path ++ item.1 == path ++ rest && item.2.kind.isFile) =
      tree.isFile (path ++ rest) := by
  unfold isFile below
  induction tree with
  | nil => rfl
  | cons item tree ih =>
      rw [List.filterMap_cons, List.any_cons]
      by_cases hprefix : path.isPrefixOf item.1 = true
      · rw [if_pos hprefix, List.any_cons, ih]
        obtain ⟨tail, htail⟩ := List.isPrefixOf_iff_prefix.mp hprefix
        dsimp only
        rw [← htail, List.drop_left]
      · rw [if_neg hprefix, ih]
        have hother : (item.1 == path ++ rest) = false := by
          refine beq_eq_false_iff_ne.mpr fun heq => hprefix ?_
          rw [heq]
          exact List.isPrefixOf_iff_prefix.mpr (List.prefix_append path rest)
        rw [hother, Bool.false_and, Bool.false_or]

end Tree

/-! ## The dashboard at a name -/

/-- `control-ui/index.html` is a file at a name. -/
def Stage.controlUi (s : Stage) (name : Name) : Bool := (s.seen name).isFile controlUiIndexRelpath

/-- The staged output has a dashboard. -/
def Stage.HasDashboard (s : Stage) : Prop := s.controlUi .dest = true

namespace Stage

lemma controlUi_congr {s s' : Stage} {name : Name} (h : s'.places name = s.places name) :
    s'.controlUi name = s.controlUi name := by
  unfold controlUi seen
  rw [h]

lemma controlUi_put (s : Stage) (name : Name) (tree : Tree) :
    (s.put name (some (.tree tree))).controlUi name = tree.isFile controlUiIndexRelpath := by
  unfold controlUi seen
  rw [put_same]
  rfl

lemma controlUi_of_tree {s : Stage} {name : Name} {tree : Tree}
    (h : s.places name = some (.tree tree)) :
    s.controlUi name = tree.isFile controlUiIndexRelpath := by
  unfold controlUi seen
  rw [h]
  rfl

/-- What a change of a tree does. -/
lemma inTree_cases (s : Stage) (name : Name) (f : Tree → Option Tree) :
    (∃ tree tree', s.places name = some (.tree tree) ∧ f tree = some tree' ∧
      s.inTree name f = (.ok (), s.put name (some (.tree tree')))) ∨
    s.inTree name f = (.error .osError, s) := by
  unfold inTree
  split
  · rename_i tree htree
    split
    · rename_i tree' htree'
      exact .inl ⟨tree, tree', htree, htree', rfl⟩
    · exact .inr rfl
  · exact .inr rfl

/-- A change that keeps the files of a tree keeps the dashboard. -/
lemma controlUi_inTree {s : Stage} {name : Name} {f : Tree → Option Tree}
    (hf : ∀ tree tree', f tree = some tree' →
      tree'.isFile controlUiIndexRelpath = tree.isFile controlUiIndexRelpath) (other : Name) :
    (s.inTree name f).2.controlUi other = s.controlUi other := by
  by_cases hname : other = name
  · subst hname
    rcases inTree_cases s other f with ⟨tree, tree', htree, htree', heq⟩ | heq
    · rw [heq, controlUi_put, controlUi_of_tree htree, hf tree tree' htree']
    · rw [heq]
  · exact controlUi_congr (inTree_other hname f)

end Stage

/-- The operations that make, remove and move nothing. -/
def Op.KeepsFiles : Op → Prop
  | .mkdir .. | .create .. | .remove .. | .replace .. => False
  | _ => True

namespace Stage

lemma exec_keepsFiles {op : Op} (h : op.KeepsFiles) (s : Stage) (name : Name) :
    (exec op s).2.controlUi name = s.controlUi name := by
  cases op with
  | append other path block =>
      refine controlUi_inTree (fun tree tree' htree => ?_) name
      split_ifs at htree
      cases htree
      refine Tree.isFile_change tree path (fun entry => ?_) _
      unfold appendBlock
      split
      · rename_i blocks hkind
        rw [hkind]
        rfl
      · rfl
  | chown other path uid gid =>
      refine controlUi_inTree (fun tree tree' htree => ?_) name
      split_ifs at htree
      cases htree
      refine Tree.isFile_change tree path (fun entry => ?_) _
      rfl
  | chmod other path mode =>
      refine controlUi_inTree (fun tree tree' htree => ?_) name
      split_ifs at htree
      cases htree
      refine Tree.isFile_change tree path (fun entry => ?_) _
      rfl
  | mkdir other path => exact h.elim
  | create other path => exact h.elim
  | remove other path => exact h.elim
  | replace source target => exact h.elim
  | _ => exact controlUi_congr (exec_spares (spares_nil rfl) s)

lemma answers_ok {s s' : Stage} {op : Op} {a : op.Res} (h : Answers s op (.ok a) s') :
    exec op s = (.ok a, s') := by
  rcases h with ⟨hr, rfl⟩ | ⟨hr, -⟩
  · rw [hr]
  · cases hr

end Stage

/-- A program that makes, removes and moves nothing keeps the dashboards. -/
lemma safe_keepsFiles {α : Type} {p : Run α} (hp : AllOps Op.KeepsFiles p) (s : Stage)
    (name : Name) :
    Safe ⟨fun _ _ => True, Stage.Answers⟩ (fun s' _ => s'.controlUi name = s.controlUi name)
      (fun _ _ => True) s p := by
  have hstep : ∀ (w : Stage) (op : Op) r w', op.KeepsFiles → w.controlUi name = s.controlUi name →
      Stage.Answers w op r w' → w'.controlUi name = s.controlUi name := by
    intro w op r w' hop hw hr
    rcases hr with ⟨-, rfl⟩ | ⟨-, rfl⟩
    · exact (Stage.exec_keepsFiles hop w name).trans hw
    · exact hw
  exact (safe_mono_pre (safe_invariant hp hstep rfl) fun _ _ _ => trivial).mono
    (fun _ _ h => h) fun _ _ _ => trivial

/-! ## Copies -/

section copies

variable {name : Name} {path : RelPath}

/-- The entry is a file at the place of the dashboard. -/
def atDashboard (path : RelPath) (item : RelPath × Entry) : Bool :=
  path ++ item.1 == controlUiIndexRelpath && item.2.kind.isFile

/-- A new directory is no dashboard. -/
lemma mkdir_controlUi {s s' : Stage} (hpath : path ≠ [])
    (h : s.mkdir name path = (.ok (), s')) : s'.controlUi name = s.controlUi name := by
  unfold Stage.mkdir at h
  rw [if_neg hpath] at h
  rcases Stage.inTree_cases s name _ with ⟨tree, tree', htree, htree', heq⟩ | heq
  · rw [heq] at h
    cases h
    split_ifs at htree'
    cases htree'
    rw [Stage.controlUi_put, Stage.controlUi_of_tree htree, Tree.isFile_add]
    simp only [Entry.created, Kind.isFile, Bool.and_false, Bool.or_false]
  · rw [heq] at h
    cases h

/-- A new tree has no dashboard. -/
lemma mkdir_top {s s' : Stage} (h : s.mkdir name [] = (.ok (), s')) :
    s'.controlUi name = false := by
  unfold Stage.mkdir at h
  rw [if_pos rfl] at h
  split at h
  · cases h
    rw [Stage.controlUi_put]
    rfl
  · cases h

lemma create_controlUi {s s' : Stage} (h : s.create name path = (.ok (), s')) :
    s'.controlUi name = (s.controlUi name || path == controlUiIndexRelpath) := by
  unfold Stage.create at h
  rcases Stage.inTree_cases s name _ with ⟨tree, tree', htree, htree', heq⟩ | heq
  · rw [heq] at h
    cases h
    rw [Stage.controlUi_put, Stage.controlUi_of_tree htree]
    by_cases hfile : tree.isFile path = true
    · rw [if_pos hfile] at htree'
      cases htree'
      rw [Tree.isFile_change_of_isFile hfile fun _ => by rfl]
      by_cases hui : path = controlUiIndexRelpath
      · rw [← hui, hfile, Bool.true_or]
      · rw [beq_eq_false_iff_ne.mpr hui, Bool.or_false]
    · rw [if_neg hfile] at htree'
      split_ifs at htree'
      cases htree'
      rw [Tree.isFile_add]
      simp only [Entry.created, Kind.isFile, Bool.and_true]
  · rw [heq] at h
    cases h

/-- A copied file at the place of the dashboard is one. -/
lemma copyItem_spec {item : RelPath × Entry} (hitem : item.1 ≠ []) (s : Stage) :
    Safe ⟨fun _ _ => True, Stage.Answers⟩
      (fun s' _ => s'.controlUi name = (s.controlUi name || atDashboard path item))
      (fun _ _ => True) s (copyItem name path item) := by
  have hpath : path ++ item.1 ≠ [] := fun h => hitem (List.append_eq_nil_iff.mp h).2
  unfold copyItem atDashboard
  cases item.2.kind with
  | dir =>
      refine safe_perform.mpr ⟨trivial, fun _ s' hr => ?_, fun _ _ _ => trivial⟩
      rw [mkdir_controlUi hpath (Stage.answers_ok hr)]
      simp only [Kind.isFile, Bool.and_false, Bool.or_false]
  | unreadable => exact safe_throw.mpr trivial
  | file blocks =>
      refine safe_bind.mpr (safe_perform.mpr ⟨trivial, fun _ s₁ hr => ?_, fun _ _ _ => trivial⟩)
      have hcreated := create_controlUi (Stage.answers_ok hr)
      have hrest : AllOps Op.KeepsFiles (do
          discard <| Program.forEach
            (fun block => (Op.append name (path ++ item.1) block).run) blocks
          (Op.chmod name (path ++ item.1) item.2.attributes.mode).run) := by
        refine allOps_bind (allOps_bind (allOps_forEach (fun block => ?_) _) fun _ => allOps_pure _)
          fun _ => ?_
        · exact allOps_perform.mpr trivial
        · exact allOps_perform.mpr trivial
      refine (safe_keepsFiles hrest s₁ name).mono (fun s₂ _ h => ?_) fun _ _ h => h
      rw [h, hcreated]
      simp only [Kind.isFile, Bool.and_true]

/-- What holds after a step that succeeds. -/
lemma attempted_spec {step : Run Unit} {Q : Stage → Prop} {s : Stage}
    (h : Safe ⟨fun _ _ => True, Stage.Answers⟩ (fun s' _ => Q s') (fun _ _ => True) s step) :
    Safe ⟨fun _ _ => True, Stage.Answers⟩ (fun s' b => b = true → Q s') (fun _ _ => True) s
      (attempted step) := by
  refine safe_tryCatch.mpr (safe_bind.mpr (h.mono (fun s' _ hq => ?_) fun s' e _ => ?_))
  · exact safe_pure.mpr fun _ => hq
  · exact safe_pure.mpr nofun

/-- The copied entries. -/
lemma copyItems_spec {items : Tree} (hitems : ∀ item ∈ items, item.1 ≠ []) (s : Stage) :
    Safe ⟨fun _ _ => True, Stage.Answers⟩
      (fun s' copied => copied.all id = true →
        s'.controlUi name = (s.controlUi name || items.any (atDashboard path)))
      (fun _ _ => True) s
      (Program.forEach (fun item => attempted (copyItem name path item)) items) := by
  induction items generalizing s with
  | nil =>
      refine safe_pure.mpr fun _ => ?_
      rw [List.any_nil, Bool.or_false]
  | cons item items ih =>
      have hfirst := @copyItem_spec name path item (hitems item List.mem_cons_self) s
      refine (attempted_spec hfirst).bind fun s₁ copied h₁ => ?_
      refine (ih (fun item' h => hitems item' (List.mem_cons_of_mem _ h)) s₁).bind fun s₂ rest h₂ => ?_
      refine safe_pure.mpr fun hall => ?_
      rw [List.all_cons, Bool.and_eq_true] at hall
      rw [h₂ hall.2, h₁ hall.1, List.any_cons, Bool.or_assoc]

/-- A copy has what was there and what is in its source. -/
lemma copytree_spec {source : Tree} (hpath : path ≠ controlUiIndexRelpath) (s : Stage) :
    Safe ⟨fun _ _ => True, Stage.Answers⟩
      (fun s' _ => s'.controlUi name =
        ((path != [] && s.controlUi name) || source.any (atDashboard path)))
      (fun _ _ => True) s (copytree source name path) := by
  have htop : ∀ item : RelPath × Entry, item.1 = [] → atDashboard path item = false := by
    intro item hitem
    unfold atDashboard
    rw [hitem, List.append_nil, beq_eq_false_iff_ne.mpr hpath, Bool.false_and]
  have hany : (source.filter (·.1 ≠ [])).any (atDashboard path) = source.any (atDashboard path) := by
    rw [List.any_filter]
    congr 1
    funext item
    by_cases hitem : item.1 = []
    · rw [htop item hitem, Bool.and_false]
    · rw [decide_eq_true hitem, Bool.true_and]
  unfold copytree
  refine safe_bind.mpr (safe_perform.mpr ⟨trivial, fun _ s₁ hr => ?_, fun _ _ _ => trivial⟩)
  have hmade : s₁.controlUi name = (path != [] && s.controlUi name) := by
    by_cases hnil : path = []
    · subst hnil
      exact mkdir_top (Stage.answers_ok hr)
    · rw [mkdir_controlUi hnil (Stage.answers_ok hr), bne_iff_ne.mpr hnil, Bool.true_and]
  refine (copyItems_spec (fun item hitem => ?_) s₁).bind fun s₂ copied h₂ => ?_
  · exact of_decide_eq_true (List.mem_filter.mp hitem).2
  have hstamp : AllOps Op.KeepsFiles (Program.forEach (fun item : RelPath × Entry =>
      attempted (Op.chmod name (path ++ item.1) item.2.attributes.mode).run)
      (source.filter (·.2.kind = .dir))) := by
    refine allOps_forEach (fun item => ?_) _
    exact allOps_tryCatch (allOps_bind (allOps_perform.mpr trivial) fun _ => allOps_pure _)
      fun _ => allOps_pure _
  refine (safe_keepsFiles hstamp s₂ name).bind fun s₃ stamped h₃ => ?_
  split
  · rename_i hall
    rw [List.all_append, Bool.and_eq_true] at hall
    refine safe_pure.mpr ?_
    rw [h₃, h₂ hall.1, hmade, hany]
  · exact safe_throw.mpr trivial

end copies

/-! ## One sync -/

/-- The dashboard that a `--runtime-only` sync finds: it does not look behind a link. -/
def Stage.kept (s : Stage) : Bool :=
  match s.places .dest with
  | some (.tree tree) => tree.isFile controlUiIndexRelpath
  | _ => false

/-- A program that spares the output, with what else holds at its end. -/
lemma safe_part {α : Type} {p : Run α} {s : Stage} {place : Option Place} {Q : Stage → α → Prop}
    (hp : AllOps (Op.Spares .dest) p) (hs : s.places .dest = place)
    (hq : Safe ⟨fun _ _ => True, Stage.Answers⟩ Q (fun _ _ => True) s p) :
    Safe ⟨fun s' _ => s'.places .dest = place, Stage.Answers⟩
      (fun s' a => s'.places .dest = place ∧ Q s' a) (fun s' _ => s'.places .dest = place) s p := by
  subst hs
  exact (safe_mono_pre (safe_and (safe_spares hp s) hq) fun _ _ h => h.1).mono (fun _ _ h => h)
    fun _ _ h => h.1

/-- Nothing more is asked of a part. -/
lemma safe_silent {α : Type} {p : Run α} {s : Stage} {place : Option Place}
    (hp : AllOps (Op.Spares .dest) p) (hs : s.places .dest = place) :
    Safe ⟨fun s' _ => s'.places .dest = place, Stage.Answers⟩
      (fun s' _ => s'.places .dest = place) (fun s' _ => s'.places .dest = place) s p :=
  (safe_part hp hs (safe_true s p)).mono (fun _ _ h => h.1) fun _ _ h => h

/-- A walk that follows links finds all that is below a path. -/
lemma list_follow {s : Stage} {name : Name} {path : RelPath} {tree : Tree}
    (h : s.list name path true = .ok tree) : tree = (s.seen name).below path := by
  unfold Stage.list at h
  split_ifs at h
  cases h
  simp only [Bool.true_or, List.filter_true]

/-- The dashboard of the output is carried over. -/
lemma mergePreservedControlUi_spec (pid : Nat) (s : Stage) :
    Safe ⟨fun _ _ => True, Stage.Answers⟩
      (fun s' _ => s'.controlUi (.tmp pid) = (s.controlUi (.tmp pid) || s.controlUi .dest))
      (fun _ _ => True) s (mergePreservedControlUi pid) := by
  refine safe_bind.mpr (safe_perform.mpr ⟨trivial, fun inTmp s' hr => ?_, fun _ _ _ => trivial⟩)
  cases Stage.answers_ok hr
  split
  · rename_i hinTmp
    refine safe_pure.mpr ?_
    rw [show s.controlUi (.tmp pid) = true from hinTmp, Bool.true_or]
  · rename_i hinTmp
    refine safe_bind.mpr (safe_perform.mpr ⟨trivial, fun inDest s' hr => ?_, fun _ _ _ => trivial⟩)
    cases Stage.answers_ok hr
    split
    · rename_i hinDest
      refine safe_pure.mpr ?_
      have hno : s.controlUi .dest = false := by simpa [Stage.controlUi] using hinDest
      rw [hno, Bool.or_false]
    · rename_i hinDest
      have hui : s.controlUi .dest = true := by simpa [Stage.controlUi] using hinDest
      have hspares := @spares_rmtreeIfPresent .dest (.tmp pid) (by nofun) ["control-ui"]
      refine (safe_within (I := fun _ => True) (safe_spares hspares s) (fun _ _ _ => trivial)
        fun _ _ _ => trivial).bind fun s₁ _ h₁ => ?_
      refine safe_bind.mpr (safe_perform.mpr ⟨trivial, fun current s' hr => ?_, fun _ _ _ => trivial⟩)
      have hanswer := Stage.answers_ok hr
      obtain rfl : s₁ = s' := congrArg Prod.snd hanswer
      obtain rfl := list_follow (congrArg Prod.fst hanswer)
      have hfound : (Tree.below (s₁.seen .dest) ["control-ui"]).any (atDashboard ["control-ui"]) =
          true := by
        refine (Tree.any_below (s₁.seen .dest) ["control-ui"] ["index.html"]).trans ?_
        exact (Stage.controlUi_congr h₁).trans hui
      refine (copytree_spec (by decide) s₁).bind fun s₂ _ h₂ => ?_
      refine safe_pure.mpr ?_
      rw [h₂, hfound, hui, Bool.or_true, Bool.or_true]

/-- What `exists` and `is_symlink` say of a name that is there and is no link. -/
lemma present_of_not_link {s : Stage} {name : Name} (hpresent : s.present name [] = true)
    (hlink : s.isLink name [] = false) :
    (∃ tree, s.places name = some (.tree tree)) ∨ s.places name = some .file := by
  unfold Stage.present at hpresent
  unfold Stage.isLink at hlink
  rw [if_pos rfl] at hpresent hlink
  cases hplace : s.places name with
  | none =>
      rw [hplace] at hpresent
      cases hpresent
  | some place =>
      cases place with
      | tree tree => exact .inl ⟨tree, rfl⟩
      | file => exact .inr rfl
      | link inside target =>
          rw [hplace] at hlink
          cases hlink

/-- A sync finds a dashboard only in an output that is there and is no link. -/
lemma present_of_kept {s : Stage} (h : s.kept = true) :
    s.present .dest [] = true ∧ s.isLink .dest [] = false ∧ s.controlUi .dest = true := by
  unfold Stage.kept at h
  split at h
  · rename_i tree htree
    unfold Stage.present Stage.isLink
    rw [if_pos rfl, if_pos rfl, htree, Stage.controlUi_of_tree htree]
    exact ⟨rfl, rfl, h⟩
  · cases h

/-- The dashboard of an output that is no link is found. -/
lemma kept_of_not_link {s : Stage} (hpresent : s.present .dest [] = true)
    (hlink : s.isLink .dest [] = false) : s.kept = s.controlUi .dest := by
  rcases present_of_not_link hpresent hlink with ⟨tree, htree⟩ | hfile
  · rw [Stage.controlUi_of_tree htree]
    unfold Stage.kept
    rw [htree]
  · unfold Stage.kept Stage.controlUi Stage.seen
    rw [hfile]
    rfl

/-- What a sync carries over. -/
lemma preserveControlUi_spec (call : SyncCall) (s : Stage) :
    Safe ⟨fun _ _ => True, Stage.Answers⟩
      (fun s' _ => s'.controlUi (.tmp call.pid) =
        (s.controlUi (.tmp call.pid) || (call.runtimeOnly && s.kept)))
      (fun _ _ => True) s (preserveControlUi call) := by
  have hnone : s.kept = false → s.controlUi (.tmp call.pid) =
      (s.controlUi (.tmp call.pid) || (call.runtimeOnly && s.kept)) := by
    intro h
    rw [h, Bool.and_false, Bool.or_false]
  unfold preserveControlUi
  cases honly : call.runtimeOnly with
  | false =>
      refine safe_pure.mpr ?_
      rw [Bool.false_and, Bool.or_false]
  | true =>
      rw [honly] at hnone
      refine safe_bind.mpr (safe_perform.mpr ⟨trivial, fun _ _ hr => ?_, fun _ _ _ => trivial⟩)
      cases Stage.answers_ok hr
      by_cases hpresent : s.present .dest [] = true
      · rw [hpresent]
        refine safe_bind.mpr (safe_perform.mpr ⟨trivial, fun _ _ hr => ?_, fun _ _ _ => trivial⟩)
        cases Stage.answers_ok hr
        by_cases hlink : s.isLink .dest [] = true
        · rw [hlink]
          refine safe_pure.mpr (hnone (Bool.eq_false_iff.mpr fun hkept => ?_))
          rw [(present_of_kept hkept).2.1] at hlink
          cases hlink
        · have hlink := Bool.eq_false_iff.mpr hlink
          rw [hlink, kept_of_not_link hpresent hlink, Bool.true_and]
          exact mergePreservedControlUi_spec call.pid s
      · have hpresent := Bool.eq_false_iff.mpr hpresent
        rw [hpresent]
        refine safe_pure.mpr (hnone (Bool.eq_false_iff.mpr fun hkept => ?_))
        rw [(present_of_kept hkept).1] at hpresent
        cases hpresent

/-- The output of a sync has a dashboard. -/
def Stage.expected (s : Stage) (call : SyncCall) : Bool :=
  call.source.tree.isFile controlUiIndexRelpath || (call.runtimeOnly && s.kept)

/-- The dist has a dashboard, or the sync is `--runtime-only`. -/
def SyncCall.Accepted (call : SyncCall) : Prop :=
  call.source.tree.isFile controlUiIndexRelpath = true ∨ call.runtimeOnly = true

lemma dest_ne_tmp (pid : Nat) : Name.dest ≠ .tmp pid := by
  intro h
  cases h

lemma dest_ne_backup (pid : Nat) : Name.dest ≠ .backup pid := by
  intro h
  cases h

/-- Before the swap the output is as it was, and the copy is what it is to become. -/
lemma stageOutput_spec (slot recipeName : String) (call : SyncCall) (s : Stage) :
    Safe ⟨fun s' _ => s'.places .dest = s.places .dest, Stage.Answers⟩
      (fun s' _ => s'.places .dest = s.places .dest ∧
        s'.controlUi (.tmp call.pid) = s.expected call ∧ call.Accepted)
      (fun s' _ => s'.places .dest = s.places .dest) s (stageOutput slot recipeName call) := by
  have hpreflight : Safe ⟨fun _ _ => True, Stage.Answers⟩ (fun _ _ => call.Accepted)
      (fun _ _ => True) s
      (Program.ofExcept (preflightDevDist call.source call.runtimeOnly) : Run Bool) := by
    refine safe_ofExcept.mpr ⟨fun halves h => ?_, fun _ _ => trivial⟩
    unfold preflightDevDist at h
    simp only [except_bind_ok, require_ok, exists_const] at h
    exact h.2.1
  have hkept : ∀ {s' : Stage}, s'.places .dest = s.places .dest → s'.kept = s.kept := by
    intro s' h
    unfold Stage.kept
    rw [h]
  have hpath : ∀ name, AllOps (Op.Spares .dest)
      (assertChildOf (pathOf slot recipeName name) name) := by
    intro name
    refine allOps_bind (allOps_perform.mpr (spares_nil rfl)) fun inside => ?_
    cases inside with
    | true => exact allOps_pure _
    | false => exact allOps_throw _
  have hroot : ∀ uid gid, AllOps (Op.Spares .dest) (prepareStageRoot slot uid gid) := by
    intro uid gid
    refine allOps_bind (allOps_bind (allOps_perform.mpr (spares_nil rfl)) fun present => ?_)
      fun isLink => ?_
    · cases present with
      | true => exact allOps_perform.mpr (spares_nil rfl)
      | false => exact allOps_pure _
    · cases isLink with
      | true => exact allOps_throw _
      | false =>
          refine allOps_bind (allOps_perform.mpr (spares_nil rfl)) fun _ => ?_
          refine allOps_bind (allOps_perform.mpr (spares_nil rfl)) fun _ => ?_
          exact allOps_perform.mpr (spares_nil rfl)
  unfold stageOutput
  refine safe_bind.mpr (safe_ofExcept.mpr ⟨fun _ _ => ?_, fun _ _ => rfl⟩)
  refine (safe_part (allOps_ofExcept _) rfl hpreflight).bind fun s₂ _ h₂ => ?_
  refine (safe_silent (allOps_perform.mpr (spares_nil rfl)) h₂.1).bind fun s₃ ids h₃ => ?_
  refine (safe_silent (hroot _ _) h₃).bind fun s₄ _ h₄ => ?_
  refine (safe_silent (allOps_bind (allOps_forEach hpath _) fun _ => allOps_pure _) h₄).bind
    fun s₅ _ h₅ => ?_
  refine (safe_silent (spares_rmtreeIfPresent (dest_ne_tmp _) []) h₅).bind fun s₆ _ h₆ => ?_
  refine (safe_silent (spares_rmtreeIfPresent (dest_ne_backup _) []) h₆).bind fun s₇ _ h₇ => ?_
  refine (safe_part (spares_copytree (dest_ne_tmp _) _ _) h₇ (copytree_spec (by decide) s₇)).bind
    fun s₈ _ h₈ => ?_
  refine (safe_part (spares_preserveControlUi call (dest_ne_tmp _)) h₈.1
    (preserveControlUi_spec call s₈)).bind fun s₉ _ h₉ => ?_
  refine (safe_part (allOps_chmodSourceTree (spares_nil rfl)
    (fun _ _ _ => spares_singleton rfl (dest_ne_tmp _))
    (fun _ _ => spares_singleton rfl (dest_ne_tmp _))
    _ _) h₉.1 (safe_keepsFiles (allOps_chmodSourceTree trivial (fun _ _ _ => trivial)
      (fun _ _ => trivial) _ _) s₉ (.tmp call.pid))).bind fun s₁₀ _ h₁₀ => ?_
  refine safe_pure.mpr ⟨h₁₀.1, ?_, h₂.2⟩
  rw [h₁₀.2, h₉.2, h₈.2, hkept h₈.1]
  rfl

/-- The swap has been made. -/
structure Stage.Swapped (s : Stage) (call : SyncCall) (s' : Stage) : Prop where
  output : s'.controlUi .dest = s.expected call
  accepted : call.Accepted
  noLink : s.present .dest [] = true → s.isLink .dest [] = false

/-- Where a sync may stop: the output is the old one, none, or the new one. -/
def Stage.Between (s : Stage) (call : SyncCall) (s' : Stage) : Prop :=
  s'.places .dest = s.places .dest ∨ s'.places .dest = none ∨ s.Swapped call s'

/-- What a rename does. -/
lemma replace_cases (s : Stage) (source target : Name) :
    (∃ place, s.places source = some place ∧
      s.replace source target = (.ok (), (s.put source none).put target (some place))) ∨
    s.replace source target = (.error .osError, s) := by
  unfold Stage.replace
  split
  · exact .inr rfl
  · rename_i place hplace
    split
    · exact .inl ⟨place, hplace, rfl⟩
    · exact .inr rfl

/-- A rename or a question that raises does nothing. -/
lemma answers_error {s s' : Stage} {op : Op} {e : SyncRaised}
    (hop : (∃ source target, op = .replace source target) ∨ (Stage.exec op s).2 = s)
    (h : Stage.Answers s op (.error e) s') : s' = s := by
  rcases h with ⟨hr, rfl⟩ | ⟨-, rfl⟩
  · rcases hop with ⟨source, target, rfl⟩ | hsame
    · rcases replace_cases s source target with ⟨place, -, heq⟩ | heq
      · have hok : (s.replace source target).1 = .error e := hr.symm
        rw [heq] at hok
        cases hok
      · show (s.replace source target).2 = s
        rw [heq]
    · exact hsame
  · rfl

/-- The old output is moved away, or there is none; a link is refused. -/
lemma moveAway_spec (slot recipeName : String) (call : SyncCall) (s : Stage) :
    Safe ⟨fun s' _ => s' = s, Stage.Answers⟩
      (fun s' _ => s'.controlUi (.tmp call.pid) = s.controlUi (.tmp call.pid) ∧
        (s'.places .dest = s.places .dest ∨ s'.places .dest = none) ∧
        (s.present .dest [] = true → s.isLink .dest [] = false))
      (fun s' _ => s' = s) s (moveAway slot recipeName call) := by
  refine safe_bind.mpr (safe_perform.mpr ⟨rfl, fun _ _ hr => ?_, fun _ _ hr =>
    answers_error (.inr rfl) hr⟩)
  cases Stage.answers_ok hr
  by_cases hpresent : s.present .dest [] = true
  · rw [hpresent]
    refine safe_bind.mpr (safe_perform.mpr ⟨rfl, fun _ _ hr => ?_, fun _ _ hr =>
      answers_error (.inr rfl) hr⟩)
    cases Stage.answers_ok hr
    by_cases hlink : s.isLink .dest [] = true
    · rw [hlink]
      exact safe_throw.mpr rfl
    · have hlink := Bool.eq_false_iff.mpr hlink
      rw [hlink]
      refine safe_perform.mpr ⟨rfl, fun _ s' hr => ?_, fun _ _ hr =>
        answers_error (.inl ⟨_, _, rfl⟩) hr⟩
      have hspared : s'.places (.tmp call.pid) = s.places (.tmp call.pid) := by
        refine @Stage.answers_spares _ _ _ (.replace .dest (.backup call.pid)) _ ?_ hr
        simp [Op.Spares, Op.touches]
      refine ⟨Stage.controlUi_congr hspared, .inr ?_, fun _ => rfl⟩
      have hmoved : s.replace .dest (.backup call.pid) = (.ok (), s') := Stage.answers_ok hr
      rcases replace_cases s .dest (.backup call.pid) with ⟨place, -, heq⟩ | heq
      · rw [heq] at hmoved
        cases hmoved
        rw [Stage.put_other (by nofun), Stage.put_same]
      · rw [heq] at hmoved
        cases hmoved
  · rw [Bool.eq_false_iff.mpr hpresent]
    exact safe_pure.mpr ⟨rfl, .inl rfl, nofun⟩

/-- **One sync.**  It ends with the output swapped, and stops nowhere but before, in or after the
swap. -/
theorem syncDevSourceOutput_spec (slot recipeName : String) (call : SyncCall) (s : Stage) :
    Safe ⟨fun s' _ => s.Between call s', Stage.Answers⟩ (fun s' _ => s.Swapped call s')
      (fun s' _ => s.Between call s') s (syncDevSourceOutput slot recipeName call) := by
  refine (safe_within (I := s.Between call) (stageOutput_spec slot recipeName call s)
    (fun _ _ h => .inl h) fun _ _ h => .inl h).bind fun s₁ halves h₁ => ?_
  have hbefore : ∀ s', s' = s₁ → s.Between call s' := by
    rintro s' rfl
    exact .inl h₁.1
  refine (safe_within (I := s.Between call) (moveAway_spec slot recipeName call s₁)
    (fun s' _ h => hbefore s' h) fun s' _ h => hbefore s' h).bind fun s₂ _ h₂ => ?_
  have hold : s.Between call s₂ := h₂.2.1.imp (fun h => h.trans h₁.1) .inl
  refine safe_bind.mpr (safe_perform.mpr ⟨hold, fun _ s₃ hr => ?_, fun _ s₃ hr => ?_⟩)
  · have hmoved : s₂.replace (.tmp call.pid) .dest = (.ok (), s₃) := Stage.answers_ok hr
    have hui : s₃.controlUi .dest = s.expected call := by
      rcases replace_cases s₂ (.tmp call.pid) .dest with ⟨place, hplace, heq⟩ | heq
      · rw [heq] at hmoved
        cases hmoved
        rw [← h₁.2.1, ← h₂.1]
        unfold Stage.controlUi Stage.seen
        rw [Stage.put_same, hplace]
      · rw [heq] at hmoved
        cases hmoved
    have hlink : s.present .dest [] = true → s.isLink .dest [] = false := by
      have hpresent : s₁.present .dest [] = s.present .dest [] := by
        unfold Stage.present
        rw [if_pos rfl, if_pos rfl, h₁.1]
      have hisLink : s₁.isLink .dest [] = s.isLink .dest [] := by
        unfold Stage.isLink
        rw [if_pos rfl, if_pos rfl, h₁.1]
      rw [← hpresent, ← hisLink]
      exact h₂.2.2
    have hswapped : ∀ s', s'.places .dest = s₃.places .dest → s.Swapped call s' :=
      fun s' h => ⟨(Stage.controlUi_congr h).trans hui, h₁.2.2, hlink⟩
    have hspares := @spares_rmtreeIfPresent .dest (.backup call.pid) (by nofun) []
    refine (safe_within (I := s.Between call) (safe_spares hspares s₃)
      (fun s' _ h => .inr (.inr (hswapped s' h))) fun s' _ h => .inr (.inr (hswapped s' h))).bind
      fun s₄ _ h₄ => safe_pure.mpr (hswapped s₄ h₄)
  · rw [answers_error (.inl ⟨_, _, rfl⟩) hr]
    exact hold

/-! ## Runs of syncs -/

/-- There is no output, or it has a dashboard. -/
def Stage.Kept (s : Stage) : Prop := s.places .dest = none ∨ s.HasDashboard

/-- Where there is no output to take a dashboard from, the dist has one. -/
def Stage.Brings (s : Stage) (call : SyncCall) : Prop :=
  s.places .dest = none → call.source.tree.isFile controlUiIndexRelpath = true

/-- A sync that found no output, or one with a dashboard, leaves a dashboard if its dist has one
where there was no output, and only then. -/
lemma hasDashboard_of_swapped {s s' : Stage} {call : SyncCall} (hs : s.Kept)
    (h : s.Swapped call s') : s'.HasDashboard ↔ s.Brings call := by
  unfold Stage.HasDashboard Stage.Brings
  rw [h.output]
  unfold Stage.expected
  rcases hs with hnone | hui
  · have hkept : s.kept = false := by
      unfold Stage.kept
      rw [hnone]
    rw [hkept, Bool.and_false, Bool.or_false]
    exact ⟨fun hdist _ => hdist, fun hbrings => hbrings hnone⟩
  · have hsome : s.places .dest ≠ none := by
      intro hnone
      unfold Stage.HasDashboard Stage.controlUi Stage.seen at hui
      rw [hnone] at hui
      cases hui
    have hpresent : s.present .dest [] = true := by
      unfold Stage.HasDashboard Stage.controlUi Stage.seen at hui
      unfold Stage.present
      rw [if_pos rfl]
      split
      · rename_i hnone
        exact absurd hnone hsome
      · rename_i inside target hlink
        rw [hlink] at hui
        cases target with
        | none => cases hui
        | some tree => rfl
      · rfl
    have hkept : s.kept = true := by
      rw [kept_of_not_link hpresent (h.noLink hpresent)]
      exact hui
    refine ⟨fun _ hnone => absurd hnone hsome, fun _ => ?_⟩
    rw [hkept, Bool.and_true, Bool.or_eq_true]
    exact h.accepted

/-- A sync of a run: it ends, or it is cut off between two operations. -/
inductive Turn (slot recipeName : String) (s : Stage) (call : SyncCall) (s' : Stage) : Prop where
  | ended (x : Except SyncRaised (String × Bool × Bool))
      (h : Ends Stage.Answers (syncDevSourceOutput slot recipeName call) s x s')
  | crashed (op : Op)
      (h : Interrupted Stage.Answers (syncDevSourceOutput slot recipeName call) s op s')

/-- The stages that syncs reach, one after the other, if each meets a condition. -/
inductive Reached (slot recipeName : String) (ok : Stage → SyncCall → Prop) (s₀ : Stage) :
    Stage → Prop where
  | start : Reached slot recipeName ok s₀ s₀
  | turn {s s' : Stage} {call : SyncCall} (h : Reached slot recipeName ok s₀ s) (hok : ok s call)
      (hturn : Turn slot recipeName s call s') : Reached slot recipeName ok s₀ s'

/-- A sync that brings a dashboard where there is no output keeps it, wherever it stops. -/
lemma kept_of_turn {slot recipeName : String} {s s' : Stage} {call : SyncCall} (hs : s.Kept)
    (hbrings : s.Brings call) (h : Turn slot recipeName s call s') : s'.Kept := by
  have hspec := syncDevSourceOutput_spec slot recipeName call s
  have hbetween : s.Between call s' := by
    cases h with
    | ended x h =>
        cases x with
        | ok out => exact .inr (.inr (h.of_safe hspec))
        | error e => exact h.of_safe_error hspec
    | crashed op h => exact h.of_safe hspec
  rcases hbetween with hsame | hnone | hswapped
  · unfold Stage.Kept Stage.HasDashboard at hs ⊢
    rwa [Stage.controlUi_congr hsame, hsame]
  · exact .inl hnone
  · exact .inr ((hasDashboard_of_swapped hs hswapped).mpr hbrings)

/-- What syncs that bring a dashboard where there is no output reach. -/
lemma kept_of_reached {slot recipeName : String} {s₀ s : Stage} (hs : s₀.HasDashboard)
    (h : Reached slot recipeName Stage.Brings s₀ s) : s.Kept := by
  induction h with
  | start => exact .inr hs
  | turn _ hok hturn ih => exact kept_of_turn ih hok hturn

/-- **When a dashboard is kept.**  The output had a dashboard, and since then every sync that found
no output, because the one before it was cut off in the swap, brought a dist with a dashboard.  The
next sync that completes leaves a dashboard if it too brings one where it finds no output, and only
then. -/
theorem dashboard_kept_iff {slot recipeName : String} {s₀ s s' : Stage} (hs : s₀.HasDashboard)
    (h : Reached slot recipeName Stage.Brings s₀ s) {call : SyncCall} {out : String × Bool × Bool}
    (hends : Ends Stage.Answers (syncDevSourceOutput slot recipeName call) s (.ok out) s') :
    s'.HasDashboard ↔ s.Brings call :=
  hasDashboard_of_swapped (kept_of_reached hs h)
    (hends.of_safe (syncDevSourceOutput_spec slot recipeName call s))

/-! ## A swap that is cut off -/

section samples

/-- A dist with both halves. -/
def fullTree : Tree := [([], .created .dir), (["index.js"], .created (.file [])),
  (["control-ui"], .created .dir), (["control-ui", "index.html"], .created (.file []))]

/-- An output with a dashboard. -/
def sampleStage : Stage where
  root := .directory ⟨0, 0, 0o750⟩
  ids := some (1, 1)
  places name := if name = .dest then some (.tree fullTree) else none

/-- A sync of both halves. -/
def fullSync (pid : Nat) : SyncCall := ⟨pid, ⟨"/dist", fullTree⟩, false⟩

/-- A sync of the runtime half. -/
def runtimeSync (pid : Nat) : SyncCall := ⟨pid, ⟨"/dist", fullTree.take 2⟩, true⟩

/-- A sync of both halves, cut off when the old output has made way. -/
def cutOff : Option (Op × Stage) :=
  nextAfter Stage.exec 33 (syncDevSourceOutput "a" "a" (fullSync 1)) sampleStage

/-- What the sync that was cut off leaves. -/
def cutOffStage : Stage := (cutOff.map Prod.snd).getD sampleStage

lemma exec_answers (op : Op) (s : Stage) :
    Stage.Answers s op (Stage.exec op s).1 (Stage.exec op s).2 := .inl ⟨rfl, rfl⟩

lemma turn_cutOff : Turn "a" "a" sampleStage (fullSync 1) cutOffStage := by
  have hop : cutOff.map Prod.fst = some (.replace (.tmp 1) .dest) := by decide
  obtain ⟨⟨op, s'⟩, hcut, -⟩ := Option.map_eq_some_iff.mp hop
  have hstage : cutOffStage = s' := by
    unfold cutOffStage
    rw [hcut]
    rfl
  rw [hstage]
  exact .crashed op (interrupted_of_nextAfter exec_answers hcut)

/-- What a sync of another process makes of the stage. -/
lemma ends_after_cutOff (call : SyncCall)
    (h : (eval Stage.exec (syncDevSourceOutput "a" "a" call) cutOffStage).1.isOk = true) :
    ∃ out, Ends Stage.Answers (syncDevSourceOutput "a" "a" call) cutOffStage (.ok out)
      (eval Stage.exec (syncDevSourceOutput "a" "a" call) cutOffStage).2 := by
  have hends := ends_eval exec_answers (syncDevSourceOutput "a" "a" call) cutOffStage
  cases hout : (eval Stage.exec (syncDevSourceOutput "a" "a" call) cutOffStage).1 with
  | error e =>
      rw [hout] at h
      cases h
  | ok out =>
      rw [hout] at hends
      exact ⟨out, hends⟩

theorem fullSync_after_cutOff : ∃ s', s'.HasDashboard ∧ ∃ out,
    Ends Stage.Answers (syncDevSourceOutput "a" "a" (fullSync 2)) cutOffStage (.ok out) s' := by
  obtain ⟨out, hends⟩ := ends_after_cutOff (fullSync 2) (by decide)
  have hreached : Reached "a" "a" Stage.Brings sampleStage cutOffStage :=
    .turn .start (fun h => by cases h) turn_cutOff
  have hui : sampleStage.HasDashboard := by
    unfold Stage.HasDashboard
    decide
  refine ⟨_, (dashboard_kept_iff hui hreached hends).mpr fun _ => ?_, out, hends⟩
  decide

/-- A `--runtime-only` sync after the one that was cut off leaves no dashboard. -/
theorem runtimeSync_after_cutOff : sampleStage.HasDashboard ∧
    Turn "a" "a" sampleStage (fullSync 1) cutOffStage ∧
    ∃ s' out, Ends Stage.Answers (syncDevSourceOutput "a" "a" (runtimeSync 2)) cutOffStage
      (.ok out) s' ∧ ¬ s'.HasDashboard := by
  obtain ⟨out, hends⟩ := ends_after_cutOff (runtimeSync 2) (by decide)
  refine ⟨?_, turn_cutOff, _, out, hends, ?_⟩
  · unfold Stage.HasDashboard
    decide
  · unfold Stage.HasDashboard
    decide

end samples

end AgentRuntimeOps.Runtime.DevSource
