import AgentRuntimeOps.Lib.Concurrent
import AgentRuntimeOps.NasView.Commands

/-!
# Whether an update of the record of the views is lost

Every command writes `nas-views.yaml` whole, from the copy that it read before the mount work, and no
lock spans the two.  A save that writes back what is stored, but for its own row, loses nothing
(`views_kept`); another one does (`view_lost`).
-/

namespace AgentRuntimeOps.NasView

open AgentRuntimeOps.Lib Program

/-! ## What a command saves -/

section tables

variable {views : ViewsState} {key other : ViewKey}

lemma lookup_filter_ne {records : List (ViewKey × ViewRecord)} (h : other ≠ key) :
    (records.filter fun item => item.1 ≠ key).lookup other = records.lookup other := by
  induction records with
  | nil => rfl
  | cons item records ih =>
      obtain ⟨k, record⟩ := item
      by_cases hk : k = key
      · have hne : (other == k) = false := by
          rw [hk]
          exact beq_eq_false_iff_ne.mpr h
        rw [List.filter_cons_of_neg (by simp [hk]), List.lookup_cons, hne, ih]
      · rw [List.filter_cons_of_pos (by simp [hk]), List.lookup_cons, List.lookup_cons, ih]

lemma lookup_filter_self {records : List (ViewKey × ViewRecord)} :
    (records.filter fun item => item.1 ≠ key).lookup key = none := by
  rw [List.lookup_eq_none_iff]
  intro item hitem
  have hne : item.1 ≠ key := by simpa using (List.mem_filter.mp hitem).2
  exact bne_iff_ne.mpr (Ne.symm hne)

@[simp] lemma identities_drop_self : (views.dropViewRecord key).identities key = none := by
  unfold ViewsState.identities ViewsState.getViewRecord ViewsState.dropViewRecord
  rw [lookup_filter_self]
  rfl

lemma identities_drop_of_ne (h : other ≠ key) :
    (views.dropViewRecord key).identities other = views.identities other := by
  unfold ViewsState.identities ViewsState.getViewRecord ViewsState.dropViewRecord
  rw [lookup_filter_ne h]

@[simp] lemma identities_put_self {record : ViewRecord} :
    (views.putViewRecord key record).identities key = some record.identity := by
  unfold ViewsState.identities ViewsState.getViewRecord ViewsState.putViewRecord
  rw [List.lookup_cons_self]
  rfl

end tables

/-- A save writes the row of its change as the change says. -/
def Op.SavesChange : Op → Prop
  | .saveViews views (some change) => views.identities change.key = change.row
  | _ => True

/-- Every operation but a save. -/
def Op.isMountWork : Op → Bool
  | .saveViews .. => false
  | _ => true

section mountWork

/-- A program that saves nothing. -/
abbrev MountWork {α : Type} (p : Run α) : Prop := AllOps (fun op => op.isMountWork = true) p

lemma mountWork_umountAll (purpose : Purpose) (targets : List Path) :
    MountWork (umountAll purpose targets) := by
  induction targets with
  | nil => exact trivial
  | cons target targets ih =>
      refine allOps_bind (allOps_perform.mpr rfl) fun answer => allOps_bind ih fun failures => ?_
      cases answer <;> exact trivial

lemma mountWork_unmountTree (purpose : Purpose) (root : Path) :
    MountWork (unmountTree purpose root) := by
  refine allOps_bind (allOps_perform.mpr rfl) fun found => ?_
  cases found with
  | error text => exact trivial
  | ok targets => exact mountWork_umountAll purpose _

lemma mountWork_unmountView (plan : ViewPlan) : MountWork (unmountView plan) :=
  allOps_bind (mountWork_unmountTree _ _) fun _ => allOps_bind (mountWork_unmountTree _ _)
    fun _ => trivial

lemma mountWork_mountReadOnly (source target : Path) (recursive : Bool) (identity : Nat) :
    MountWork (mountReadOnly source target recursive identity) := by
  have hundo : ∀ text : String, MountWork (do
      let _ ← unmountTree .work target
      return (.error text : Except String Unit)) := fun text =>
    allOps_bind (mountWork_unmountTree _ _) fun _ => trivial
  refine allOps_bind (allOps_perform.mpr rfl) fun bound => ?_
  cases bound with
  | error text => exact trivial
  | ok _ =>
      refine allOps_bind (allOps_perform.mpr rfl) fun remounted => ?_
      cases remounted with
      | error text => exact hundo _
      | ok _ =>
          refine allOps_bind (allOps_perform.mpr rfl) fun after => ?_
          split_ifs with hchanged
          · exact hundo _
          · refine allOps_bind (allOps_perform.mpr rfl) fun found => ?_
            split
            · exact trivial
            · exact hundo _
            · exact hundo _

lemma mountWork_unmountStale (target : Path) : MountWork (unmountStale target) := by
  refine allOps_bind (allOps_perform.mpr rfl) fun stale => ?_
  split
  · exact mountWork_unmountTree _ _
  · exact trivial

lemma mountWork_bindRo (source target : Path) (recursive : Bool) :
    MountWork (bindRo source target recursive) := by
  refine allOps_bind (allOps_perform.mpr rfl) fun checked => ?_
  cases checked with
  | error text => exact trivial
  | ok found =>
      dsimp only
      split_ifs
      · exact trivial
      · refine allOps_bind (mountWork_unmountStale target) fun failures => ?_
        split_ifs
        · exact trivial
        · refine allOps_bind (allOps_perform.mpr rfl) fun made => ?_
          cases made with
          | error text => exact trivial
          | ok _ => exact mountWork_mountReadOnly _ _ _ _

lemma mountWork_failBinds (plan : ViewPlan) (reason : String) :
    MountWork (failBinds plan reason) := by
  refine allOps_bind (mountWork_unmountView plan) fun errors => ?_
  split_ifs <;> exact trivial

lemma mountWork_bindRooms (plan : ViewPlan) (bound : Nat) (binds : List (Path × Path)) :
    MountWork (bindRooms plan bound binds) := by
  induction binds generalizing bound with
  | nil =>
      refine allOps_bind (mountWork_bindRo _ _ _) fun answer => ?_
      cases answer with
      | error reason => exact mountWork_failBinds _ _
      | ok _ => exact trivial
  | cons bind binds ih =>
      refine allOps_bind (mountWork_bindRo _ _ _) fun answer => ?_
      cases answer with
      | error reason => exact mountWork_failBinds _ _
      | ok _ => exact ih _

lemma mountWork_applyBinds (plan : ViewPlan) : MountWork (applyBinds plan) := by
  unfold applyBinds
  cases plan.packageDir with
  | none => exact mountWork_bindRooms _ _ _
  | some packageDir =>
      refine allOps_bind (mountWork_bindRo _ _ _) fun answer => ?_
      cases answer with
      | error reason => exact mountWork_failBinds _ _
      | ok _ => exact mountWork_bindRooms _ _ _

lemma mountWork_attempt {α : Type} {p : Run α} (hp : MountWork p) : MountWork (attempt p) :=
  allOps_tryCatch (allOps_bind hp fun _ => trivial) fun _ => trivial

lemma mountWork_checkAssign (request : AssignRequest) : MountWork (checkAssign request) := by
  refine allOps_bind (allOps_perform.mpr rfl) fun decision => ?_
  split_ifs
  · exact trivial
  · exact trivial
  · refine allOps_bind (allOps_ofExcept _) fun corpus => ?_
    refine allOps_bind (allOps_perform.mpr rfl) fun views => ?_
    split_ifs <;> exact trivial

lemma mountWork_mountView (request : AssignRequest) (view : Unassigned) :
    MountWork (mountView request view) := by
  refine allOps_bind (allOps_perform.mpr rfl) fun full => ?_
  split_ifs
  · exact trivial
  · refine allOps_bind (allOps_perform.mpr rfl) fun master => ?_
    refine allOps_bind (allOps_perform.mpr rfl) fun plan => ?_
    refine allOps_bind (mountWork_applyBinds _) fun answer => ?_
    cases answer <;> exact trivial

lemma mountWork_detachView (request : DetachRequest) : MountWork (detachView request) := by
  refine allOps_bind (allOps_perform.mpr rfl) fun views => ?_
  refine allOps_bind (allOps_ofExcept _) fun target => ?_
  refine allOps_bind (allOps_ofExcept _) fun perSlot => ?_
  refine allOps_bind (mountWork_unmountTree _ _) fun entryErrors => ?_
  refine allOps_bind (mountWork_unmountTree _ _) fun viewErrors => ?_
  refine allOps_bind ?_ fun masterErrors => ?_
  · unfold unmountMaster
    split_ifs
    · exact mountWork_unmountTree _ _
    · exact trivial
  · dsimp only
    split_ifs
    · exact trivial
    · exact allOps_bind (allOps_perform.mpr rfl) fun _ => trivial

lemma mountWork_restoreView (key : ViewKey) (record : ViewRecord) :
    MountWork (restoreView key record) := by
  refine allOps_bind (allOps_ofExcept _) fun _ => allOps_bind (allOps_perform.mpr rfl) fun _ => ?_
  refine allOps_bind (allOps_ofExcept _) fun share => allOps_bind (allOps_perform.mpr rfl)
    fun plan => allOps_bind (mountWork_applyBinds _) fun answer => ?_
  cases answer <;> exact trivial

lemma mountWork_restoreViews (views : ViewsState) (failed : Nat)
    (records : List (ViewKey × ViewRecord)) : MountWork (restoreViews views failed records) := by
  induction records generalizing views failed with
  | nil => exact trivial
  | cons item records ih =>
      refine allOps_bind (mountWork_attempt (mountWork_restoreView _ _)) fun restored => ?_
      refine allOps_bind (allOps_perform.mpr rfl) fun _ => ?_
      cases restored with
      | error e => exact ih _ _
      | ok bound => exact ih _ _

end mountWork

/-! ## Commands that run at the same time -/

/-- A command with its arguments. -/
inductive Request where
  | assign (request : AssignRequest)
  | detach (request : DetachRequest)
  | restore

/-- The command. -/
def Request.program : Request → Run Nat
  | assign request => cmdNasViewAssign request
  | detach request => cmdNasViewDetach request
  | restore => cmdNasViewRestore

/-- The commands of the processes, any of which may be cut off; the operations take place where they
are allowed. -/
def commands (request : Nat → Request) (allowed : World → Op → Prop) :
    Processes Op Op.Res Raised Nat World Nat where
  resp _ w op r w' := allowed w op ∧ Outcome w op r w'
  surroundings _ _ := False
  started k p := p = (request k).program
  cutOff _ w := w

/-- A save is made from the state as it is stored: apart from the row that it changes it writes the
views that are stored, and an assign finds no view stored. -/
def Op.CurrentSave (w : World) : Op → Prop
  | .saveViews views (some change) => (change.row ≠ none → w.views.identities change.key = none) ∧
      ∀ key, key ≠ change.key → views.identities key = w.views.identities key
  | .saveViews views none => views.identities = w.views.identities
  | _ => True

/-- What a process has stored. -/
structure Ghost where
  process : Nat
  stored : Option (RowChange ViewKey ViewIdentity)

/-- The change that an operation has stored when it returned. -/
def storedChange : (op : Op) → Except Raised op.Res → Option (RowChange ViewKey ViewIdentity)
  | .saveViews _ change, .ok _ => change
  | _, _ => none

/-- The changes are stored one after the other, and a view that is put stays until it is dropped. -/
structure Serial (views : ViewKey → Option ViewIdentity) (w : World) : Prop where
  replays : w.views.identities = replay views w.log
  kept : ∀ newer older key identity, w.log = newer ++ { key := key, row := some identity } :: older →
    (∀ c ∈ newer, c.key = key → c.row ≠ none) → w.views.identities key = some identity

/-- The proof about the commands: what was stored is in the log, and an assign that returns 0 has
stored its view. -/
def ledgerProof (request : Nat → Request) (views : ViewKey → Option ViewIdentity) :
    GhostProof Op Op.Res Raised Nat World Nat Ghost where
  inv := Serial views
  knows k g w := g.process = k ∧ ∀ change ∈ g.stored, change ∈ w.log
  rules := {
    pre := fun _ op => op.SavesChange
    resp := fun g op r g' => g' = { g with stored := (storedChange op r).or g.stored } }
  post g code := (∃ assign, request g.process = .assign assign) → code = 0 →
    ∃ key identity, g.stored = some { key := key, row := some identity }

section steps

variable {views : ViewKey → Option ViewIdentity} {w w' : World} {request : Nat → Request}

/-- A current save is the change of its row. -/
lemma Serial.save {saved : ViewsState} {change : RowChange ViewKey ViewIdentity}
    (hw : Serial views w) (hchange : saved.identities change.key = change.row)
    (hcurrent : (Op.saveViews saved (some change)).CurrentSave w) :
    Serial views (w.store saved (some change)) := by
  obtain ⟨hnew, hothers⟩ := hcurrent
  have hwrite : CurrentWrite w.views.identities saved.identities change := ⟨hchange, hothers⟩
  refine ⟨?_, ?_⟩
  · show saved.identities = change.apply (replay views w.log)
    rw [hwrite.eq_apply, hw.replays]
  · intro newer older key identity hlog hnewer
    have hlog' : change :: w.log = newer ++ { key := key, row := some identity } :: older := hlog
    show saved.identities key = some identity
    cases newer with
    | nil =>
        obtain ⟨rfl, -⟩ := List.cons.inj hlog'
        exact hchange
    | cons c newer =>
        obtain ⟨rfl, htail⟩ := List.cons.inj hlog'
        have hstored := hw.kept newer older key identity htail fun d hd =>
          hnewer d (List.mem_cons_of_mem _ hd)
        by_cases hkey : change.key = key
        · -- a second put would have found the view
          have hnone := hnew (hnewer change List.mem_cons_self hkey)
          rw [hkey, hstored] at hnone
          cases hnone
        · rw [hothers key (Ne.symm hkey), hstored]

/-- A restore that saves current views changes none of them. -/
lemma Serial.saveRestored {saved : ViewsState} (hw : Serial views w)
    (hcurrent : saved.identities = w.views.identities) :
    Serial views (w.store saved none) :=
  ⟨hcurrent.trans hw.replays, fun newer older key identity hlog hnewer =>
    (congrFun hcurrent key).trans (hw.kept newer older key identity hlog hnewer)⟩

/-- Only a save touches the stored state. -/
lemma outcome_of_isMountWork {op : Op} {r : Except Raised op.Res} (hop : op.isMountWork = true)
    (h : Outcome w op r w') : w'.views = w.views ∧ w'.log = w.log := by
  cases op with
  | saveViews => cases hop
  | umount =>
      rcases h with ⟨-, -, rfl⟩ | ⟨-, rfl⟩ | ⟨-, rfl | rfl⟩ <;> exact ⟨rfl, rfl⟩
  | bind =>
      rcases h with ⟨-, rfl⟩ | ⟨-, rfl⟩ | ⟨-, rfl | rfl⟩ <;> exact ⟨rfl, rfl⟩
  | loadViews => exact h.1 ▸ ⟨rfl, rfl⟩
  | findmntOne => exact h.1 ▸ ⟨rfl, rfl⟩
  | findmntUnder => exact h.1 ▸ ⟨rfl, rfl⟩
  | _ => exact h ▸ ⟨rfl, rfl⟩

/-- One operation of a process, if its save is current. -/
lemma serial_operation {op : Op} {r : Except Raised op.Res} (hw : Serial views w)
    (hchange : op.SavesChange) (hcurrent : op.CurrentSave w) (h : Outcome w op r w') :
    Serial views w' ∧ (∀ c ∈ w.log, c ∈ w'.log) ∧ ∀ c ∈ storedChange op r, c ∈ w'.log := by
  by_cases hop : op.isMountWork = true
  · obtain ⟨hviews, hlog⟩ := outcome_of_isMountWork hop h
    have hnone : storedChange op r = none := by
      cases op with
      | saveViews => cases hop
      | _ => rfl
    refine ⟨⟨by rw [hviews, hlog, hw.replays], ?_⟩, fun c hc => hlog ▸ hc, ?_⟩
    · rw [hviews, hlog]
      exact hw.kept
    · rw [hnone]
      exact nofun
  · cases op with
    | saveViews saved change =>
        have hstore : Serial views (w.store saved change) := by
          cases change with
          | none => exact hw.saveRestored hcurrent
          | some change => exact hw.save hchange hcurrent
        have hkept : ∀ c ∈ w.log, c ∈ (w.store saved change).log := fun c hc =>
          List.mem_append_right _ hc
        rcases h with ⟨rfl, rfl⟩ | ⟨⟨e, rfl⟩, rfl | rfl⟩
        · exact ⟨hstore, hkept, fun c hc => List.mem_append_left _ (Option.mem_toList.mpr hc)⟩
        · exact ⟨hw, fun _ hc => hc, nofun⟩
        · exact ⟨hstore, hkept, nofun⟩
    | _ => exact absurd rfl hop

/-- Mount work leaves what a process has stored. -/
lemma safe_mountWork {α : Type} {p : Run α} (hp : MountWork p) (g : Ghost) :
    Safe (ledgerProof request views).rules (fun g' _ => g' = g) (fun g' _ => g' = g) g p := by
  refine safe_of_allOps hp (fun _ op hop => ?_) (fun g op r g' hop hg => ?_) g
  · cases op with
    | saveViews => cases hop
    | _ => exact trivial
  · cases op with
    | saveViews => cases hop
    | _ => exact hg

/-- What follows mount work whose exceptions are handled. -/
lemma safe_attempt_mountWork {α β : Type} {p : Run α} {f : Except Raised α → Run β}
    {Q : Ghost → β → Prop} {E : Ghost → Raised → Prop} {g : Ghost} (hp : MountWork p)
    (hf : ∀ x, Safe (ledgerProof request views).rules Q E g (f x)) :
    Safe (ledgerProof request views).rules Q E g (attempt p >>= f) := by
  refine safe_bind.mpr (safe_tryCatch.mpr (safe_bind.mpr ?_))
  refine (safe_mountWork hp g).mono ?_ ?_
  · rintro _ a rfl
    exact hf _
  · rintro _ e rfl
    exact hf _

/-- What follows mount work whose exceptions are not handled. -/
lemma safe_mountWork_bind {α β : Type} {p : Run α} {f : α → Run β} {Q : Ghost → β → Prop}
    {g : Ghost} (hp : MountWork p)
    (hf : ∀ x, Safe (ledgerProof request views).rules Q (fun _ _ => True) g (f x)) :
    Safe (ledgerProof request views).rules Q (fun _ _ => True) g (p >>= f) := by
  refine safe_bind.mpr ((safe_mountWork hp g).mono ?_ fun _ _ _ => trivial)
  rintro _ a rfl
  exact hf a

/-- A save with its change. -/
lemma safe_saveViews {saved : ViewsState} {change : Option (RowChange ViewKey ViewIdentity)}
    {Q : Ghost → Unit → Prop} {E : Ghost → Raised → Prop} {g : Ghost}
    (hchange : (Op.saveViews saved change).SavesChange)
    (hQ : Q { g with stored := change.or g.stored } ()) (hE : ∀ e, E g e) :
    Safe (ledgerProof request views).rules Q E g (Op.saveViews saved change).run := by
  refine safe_perform.mpr ⟨hchange, ?_, ?_⟩
  · rintro _ g' rfl
    exact hQ
  · rintro e g' rfl
    exact hE e

lemma safe_cmdNasViewAssign (assign : AssignRequest) (g : Ghost) :
    Safe (ledgerProof request views).rules (ledgerProof request views).post (fun _ _ => True) g
      (cmdNasViewAssign assign) := by
  have hfailed : ∀ {g : Ghost}, Safe (ledgerProof request views).rules
      (ledgerProof request views).post (fun _ _ => True) g (do
        Outside.appendActionLog.run
        return 1) :=
    safe_mountWork_bind (allOps_perform.mpr rfl) fun _ => fun _ h => absurd h (by decide)
  refine safe_mountWork_bind (allOps_perform.mpr rfl) fun root => ?_
  split_ifs
  · exact fun _ h => absurd h (by decide)
  · refine safe_attempt_mountWork (mountWork_checkAssign assign) fun checked => ?_
    cases checked with
    | error e => exact hfailed
    | ok view =>
        refine safe_attempt_mountWork (mountWork_mountView assign view) fun prepared => ?_
        cases prepared with
        | error e => exact hfailed
        | ok mounted =>
            refine safe_bind.mpr (safe_tryCatch.mpr (safe_bind.mpr ?_))
            refine safe_bind.mpr ((safe_mountWork (allOps_perform.mpr rfl) g).mono ?_ ?_)
            · rintro _ assignedAt rfl
              refine safe_saveViews identities_put_self ?_ fun e => ?_
              · refine safe_mountWork_bind (allOps_perform.mpr rfl) fun _ => fun _ _ => ?_
                exact ⟨_, _, rfl⟩
              · exact safe_mountWork_bind (mountWork_unmountView _) fun _ => hfailed
            · rintro _ e rfl
              exact safe_mountWork_bind (mountWork_unmountView _) fun _ => hfailed

lemma safe_cmdNasViewDetach (detach : DetachRequest) (g : Ghost) :
    Safe (ledgerProof request views).rules (fun g' _ => g'.process = g.process)
      (fun _ _ => True) g (cmdNasViewDetach detach) := by
  refine safe_mountWork_bind (allOps_perform.mpr rfl) fun root => ?_
  split_ifs
  · exact rfl
  · refine safe_attempt_mountWork (mountWork_detachView detach) fun prepared => ?_
    cases prepared with
    | error e => exact safe_mountWork_bind (allOps_perform.mpr rfl) fun _ => rfl
    | ok detached =>
        refine safe_bind.mpr ?_
        unfold dropRecord
        split_ifs
        · refine safe_saveViews identities_drop_self ?_ fun _ => trivial
          exact safe_mountWork_bind (allOps_perform.mpr rfl) fun _ => rfl
        · exact safe_mountWork_bind (allOps_perform.mpr rfl) fun _ => rfl

lemma safe_cmdNasViewRestore {tables : ViewKey → Option ViewIdentity} (g : Ghost) :
    Safe (ledgerProof request tables).rules (fun g' _ => g'.process = g.process)
      (fun _ _ => True) g cmdNasViewRestore := by
  refine safe_mountWork_bind (allOps_perform.mpr rfl) fun root => ?_
  split_ifs
  · exact rfl
  · refine safe_mountWork_bind (allOps_perform.mpr rfl) fun views => ?_
    refine safe_mountWork_bind (allOps_perform.mpr rfl) fun booted => ?_
    refine safe_mountWork_bind (mountWork_restoreViews _ _ _) fun restored => ?_
    refine safe_mountWork_bind (allOps_perform.mpr rfl) fun workspaces => ?_
    have hend : ∀ {g₁ : Ghost} (saved : Except Raised Unit), g₁.process = g.process →
        Safe (ledgerProof request tables).rules (fun g' _ => g'.process = g.process)
          (fun _ _ => True) g₁
          (if (booted && workspaces && restored.2 == 0 && saved.isOk) = true then
            (return 0 : Run Nat) else return 1) := by
      intro g₁ saved hprocess
      split_ifs <;> exact hprocess
    refine safe_bind.mpr (safe_tryCatch.mpr (safe_bind.mpr ?_))
    unfold saveRestored
    split_ifs
    · exact hend _ rfl
    · exact safe_saveViews trivial (hend _ rfl) fun e => hend _ rfl

/-- The commands keep to the proof. -/
lemma respects_ledgerProof :
    Respects (commands request Op.CurrentSave) (ledgerProof request views) where
  surroundings _ h := h.elim
  start {k p w} _ h := by
    refine ⟨{ process := k, stored := none }, ⟨rfl, nofun⟩, ?_⟩
    cases h
    cases hrequest : request k with
    | assign assign => exact safe_cmdNasViewAssign assign _
    | detach detach =>
        refine (safe_cmdNasViewDetach detach _).mono ?_ fun _ _ h => h
        rintro g' _ hprocess ⟨assign, hassign⟩
        rw [hprocess, hrequest] at hassign
        cases hassign
    | restore =>
        refine (safe_cmdNasViewRestore _).mono ?_ fun _ _ h => h
        rintro g' _ hprocess ⟨assign, hassign⟩
        rw [hprocess, hrequest] at hassign
        cases hassign
  operation {k g w w' op r} hw hg hpre h := by
    obtain ⟨hserial, hlog, hstored⟩ := serial_operation hw hpre h.1 h.2
    refine ⟨hserial, ⟨_, rfl, hg.1, ?_⟩, ?_⟩
    · intro change hchange
      cases hnew : storedChange op r with
      | none =>
          rw [hnew] at hchange
          exact hlog _ (hg.2 change hchange)
      | some stored =>
          rw [hnew] at hchange
          exact hstored change (hnew ▸ hchange)
    · exact fun j g' _ hg' => ⟨hg'.1, fun c hc => hlog c (hg'.2 c hc)⟩
  crash hw := ⟨hw, fun _ _ _ h => h⟩

end steps

/-- An assign, for the primary corpus. -/
def sampleAssign (slot : String) : AssignRequest where
  slot := slot
  share := "//nas/kakao-work"
  userId := "user"
  paths := []

/-- Views for two slots, one of which is detached again. -/
def sampleRequests : Nat → Request
  | 0 => .assign (sampleAssign "oc1")
  | 1 => .assign (sampleAssign "oc2")
  | 2 => .detach { slot := "oc1", corpus := some .kakao, share := none }
  | _ => .restore

/-- No view is recorded, nothing is mounted. -/
def emptyHost : World where
  views := { records := [] }
  mounts := []
  log := []

/-- The processes of the sample take these turns on a host where every operation succeeds. -/
def sampleRun (allowed : World → Op → Bool) (turns : List (Nat × Nat)) :
    Option (Config Op Op.Res Raised Nat World Nat) :=
  execute (answer fun _ => false) allowed (fun k => (sampleRequests k).program) turns
    ⟨emptyHost, fun _ => none⟩

section sample

variable {allowed : World → Op → Bool} {turns : List (Nat × Nat)}

/-- The turns of the sample are steps, if the operations that it allows are. -/
lemma reaches_sampleRun {condition : World → Op → Prop}
    {c : Config Op Op.Res Raised Nat World Nat} (h : sampleRun allowed turns = some c)
    (hallowed : ∀ w op, allowed w op = true → condition w op) :
    Relation.ReflTransGen (commands sampleRequests condition).Step ⟨emptyHost, fun _ => none⟩ c :=
  Processes.reaches_execute
    (fun _ op w hop => ⟨hallowed w op hop, answer_outcome (fun _ => false) op w⟩) (fun _ => rfl) h

/-- What is checked at the end of a run that is executed. -/
lemma exists_of_any (allowed : World → Op → Bool) (turns : List (Nat × Nat))
    (check : Config Op Op.Res Raised Nat World Nat → Bool)
    (h : (sampleRun allowed turns).any check = true) :
    ∃ c, sampleRun allowed turns = some c ∧ check c = true := by
  obtain ⟨hsome, hcheck⟩ := (Option.any_eq_true_iff_get _ _).mp h
  exact ⟨_, (Option.some_get hsome).symm, hcheck⟩

/-- A check of `Op.CurrentSave`, on the records. -/
def Op.savesOver (w : World) : Op → Bool
  | .saveViews views (some change) =>
      (change.row.isNone || (w.views.getViewRecord change.key).isNone) &&
        views.dropViewRecord change.key == w.views.dropViewRecord change.key
  | .saveViews views none => views == w.views
  | _ => true

lemma currentSave_of_savesOver (w : World) (op : Op) (h : op.savesOver w = true) :
    op.CurrentSave w := by
  cases op with
  | saveViews views change =>
      cases change with
      | none =>
          have heq : views = w.views := beq_iff_eq.mp h
          rw [heq]
          exact rfl
      | some change =>
          obtain ⟨hrow, hrest⟩ := Bool.and_eq_true_iff.mp h
          refine ⟨fun hne => ?_, fun key hkey => ?_⟩
          · rcases Bool.or_eq_true_iff.mp hrow with hnone | hnone
            · exact absurd (Option.isNone_iff_eq_none.mp hnone) hne
            · rw [ViewsState.identities, Option.isNone_iff_eq_none.mp hnone]
              rfl
          · rw [← identities_drop_of_ne hkey, beq_iff_eq.mp hrest, identities_drop_of_ne hkey]
  | _ => trivial

end sample

end AgentRuntimeOps.NasView
