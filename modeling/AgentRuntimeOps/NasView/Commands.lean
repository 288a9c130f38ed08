import AgentRuntimeOps.NasView.Basic

/-!
# Assigning, detaching and restoring NAS views

`commands/nas_view.py`: the commands that change `nas-views.yaml`, each with the mount work between
reading it and writing it.
-/

namespace AgentRuntimeOps.NasView

open AgentRuntimeOps.Lib

/-- Carried by the membership tests of the definitions. -/
instance instLawfulBEqListString : LawfulBEq (List String) := inferInstance

/-! ## Unmounting and binding -/

/-- `umount` of each target; the failures. -/
def umountAll (purpose : Purpose) : List Path → Run (List String)
  | [] => return []
  | target :: rest => do
      let answer ← (Op.umount purpose target).run
      let failures ← umountAll purpose rest
      match answer with
      | .ok () => return failures
      | .error text => return (target.text ++ ": " ++ text) :: failures

/-- The targets once each, longest text first. -/
def deepestFirst (targets : List Path) : List Path :=
  targets.dedup.mergeSort fun a b => b.text.length ≤ a.text.length

/-- `unmount_tree`: the failures. -/
def unmountTree (purpose : Purpose) (root : Path) : Run (List String) := do
  match ← (Op.findmntUnder purpose root).run with
  | .error text => return [text]
  | .ok targets => umountAll purpose (deepestFirst targets)

/-- The mount, the remount and the two checks after them. -/
def mountReadOnly (source target : Path) (recursive : Bool) (identity : Nat) :
    Run (Except String Unit) := do
  match ← (Op.bind recursive source target).run with
  | .error text => return .error text
  | .ok () =>
    match ← (Op.remount target).run with
    | .error text =>
        let _ ← unmountTree .work target
        return .error ("ro_remount_failed:" ++ text)
    | .ok () =>
      let after ← (Op.lstat source).run
      if after ≠ some identity then
        let _ ← unmountTree .work target
        return .error "bind_source_changed_during_mount"
      else
        match ← (Op.findmntOne target).run with
        | .ok (some true) => return .ok ()
        | .error text =>
            let _ ← unmountTree .work target
            return .error text
        | _ =>
            let _ ← unmountTree .work target
            return .error "bind_mounted_state_not_ro_nosuid_nodev"

/-- Unmount what is mounted at the target of a bind. -/
def unmountStale (target : Path) : Run (List String) := do
  match ← (Op.findmntOne target).run with
  | .ok (some _) => unmountTree .work target
  | _ => return []

/-- `bind_ro`: an existing mount at the target is never trusted. -/
def bindRo (source target : Path) (recursive : Bool) : Run (Except String Unit) := do
  match ← (Op.checkBind source target).run with
  | .error text => return .error text
  | .ok found =>
    if found.isDirectory = none then
      return .error ("bind_source_not_regular_or_directory:" ++ source.text)
    else
      let failures ← unmountStale target
      if failures ≠ [] then
        return .error ("stale_mount_unmount_failed:" ++ String.intercalate "; " failures)
      else
        match ← (Op.makeTarget target).run with
        | .error text => return .error text
        | .ok () => mountReadOnly source target recursive found.identity

/-- The clean-up of `_apply_binds` and of a failed save: the binds of this view go. -/
def unmountView (plan : ViewPlan) : Run (List String) := do
  let entryErrors ← unmountTree .cleanUp plan.entry
  let viewErrors ← unmountTree .cleanUp plan.view
  return entryErrors ++ viewErrors

/-- `fail` of `_apply_binds`. -/
def failBinds (plan : ViewPlan) (reason : String) : Run (Except String Nat) := do
  let errors ← unmountView plan
  if errors = [] then
    return .error reason
  else
    return .error (reason ++ ":rollback_failed:" ++ String.intercalate "; " errors)

/-- Bind the rooms one after the other, then the entry. -/
def bindRooms (plan : ViewPlan) : Nat → List (Path × Path) → Run (Except String Nat)
  | bound, [] => do
      match ← bindRo plan.view plan.entry true with
      | .error reason => failBinds plan ("entry_bind:" ++ reason)
      | .ok () => return .ok bound
  | bound, (source, target) :: rest => do
      match ← bindRo source target false with
      | .error reason =>
          failBinds plan ("room_bind:" ++ (target.getLast?.getD "") ++ ":" ++ reason)
      | .ok () => bindRooms plan (bound + 1) rest

/-- `_apply_binds`. -/
def applyBinds (plan : ViewPlan) : Run (Except String Nat) :=
  match plan.packageDir with
  | none => bindRooms plan 0 plan.roomBinds
  | some packageDir => do
      match ← bindRo packageDir plan.packageBind false with
      | .error reason => failBinds plan ("package_bind:" ++ reason)
      | .ok () => bindRooms plan 0 plan.roomBinds

/-! ## Assigning a view -/

/-- The arguments of an assign. -/
structure AssignRequest where
  slot : String
  share : String
  userId : String
  paths : List String

/-- `str.strip()`. -/
def strip (text : List Char) : List Char :=
  ((text.dropWhile Char.isWhitespace).reverse.dropWhile Char.isWhitespace).reverse

/-- `parse_smb_share`. -/
def parseSmbShare (source : String) : Except Raised Share :=
  match (strip source.toList).splitOn '/' with
  | [[], [], host, share] =>
      if host = [] ∨ share = [] ∨ '\\' ∈ host ∨ '\\' ∈ share then .error .badShare
      else .ok { host := String.ofList host, share := String.ofList share }
  | _ => .error .badShare

/-- `corpus_for_share`, by `CORPORA`. -/
def corpusForShare (share : Share) : Except Raised Corpus :=
  match share.share with
  | "kakao-work" => .ok .kakao
  | "hanpass_groupware" => .ok .groupware
  | "whatsapp" => .ok .whatsapp
  | _ => .error .unknownCorpus

/-- A view that is mounted and not recorded yet. -/
structure Mounted where
  views : ViewsState
  plan : ViewPlan
  master : Master
  roomsBound : Nat

/-- What an assign knows once no view is recorded for the slot and the corpus. -/
structure Unassigned where
  views : ViewsState
  slot : String
  share : Share
  corpus : Corpus

/-- `cmd_nas_view_assign` up to the check for an existing view. -/
def checkAssign (request : AssignRequest) : Run Unassigned := do
  let decision ← (Op.checkNasPolicy request.slot request.share).run
  if !decision.allowed then
    throw .policyDenied
  else if shareIsWritable decision.share then
    throw .ownFolder
  else
    let corpus ← Program.ofExcept (corpusForShare decision.share)
    let views ← Op.loadViews.run
    if (views.getViewRecord (decision.slot, corpus)).isSome then
      throw .viewExists
    else
      return { views := views, slot := decision.slot, share := decision.share, corpus := corpus }

/-- The rest of its first `try`. -/
def mountView (request : AssignRequest) (view : Unassigned) : Run Mounted := do
  if ← (Op.fullyMounted view.slot view.share).run then
    throw .fullyMounted
  else
    let master ← (Op.prepareMaster view.slot view.share.source view.corpus).run
    let plan ← (Op.buildViewPlan view.slot request.userId view.share view.corpus request.paths).run
    match ← applyBinds plan.val with
    | .error reason => throw (.bindFailed reason)
    | .ok bound =>
        return { views := view.views, plan := plan.val, master := master, roomsBound := bound }

/-- The record of a mounted view. -/
def Mounted.record (mounted : Mounted) (assignedAt : String) : ViewRecord where
  identity := {
    userId := mounted.plan.userId
    share := mounted.plan.share.source
    masterMode := some mounted.master.mode
    masterPath := some mounted.master.path.text
    package := (mounted.plan.packageDir.bind List.getLast?).getD ""
    paths := mounted.plan.paths
    assignedAt := assignedAt }
  roomsBound := mounted.roomsBound
  roomsMissingMedia := mounted.plan.missingRooms

/-- The slot and the corpus of a mounted view. -/
def Mounted.key (mounted : Mounted) : ViewKey := (mounted.plan.slot, mounted.plan.corpus)

/-- The second `try` of `cmd_nas_view_assign`. -/
def recordView (mounted : Mounted) : Run Unit := do
  let assignedAt ← Op.now.run
  let record := mounted.record assignedAt
  (Op.saveViews (mounted.views.putViewRecord mounted.key record)
    (some { key := mounted.key, row := some record.identity })).run

/-- `cmd_nas_view_assign` after the check for an existing view: the exit code. -/
def assignView (request : AssignRequest) (view : Unassigned) : Run Nat := do
  match ← attempt (mountView request view) with
  | .error _ =>
      Outside.appendActionLog.run
      return 1
  | .ok mounted =>
      match ← attempt (recordView mounted) with
      | .error _ =>
          -- a mounted view without its record is taken down again
          let _ ← unmountView mounted.plan
          Outside.appendActionLog.run
          return 1
      | .ok () =>
          Outside.appendActionLog.run
          return 0

/-- `cmd_nas_view_assign`: the exit code.  What fails before and after the check for an existing view
is handled in the same way. -/
def cmdNasViewAssign (request : AssignRequest) : Run Nat := do
  if !(← Op.isRoot.run) then
    return 2
  else
    match ← attempt (checkAssign request) with
    | .error _ =>
        Outside.appendActionLog.run
        return 1
    | .ok view => assignView request view

/-! ## Detaching a view -/

/-- `_record_master_mode`: whether the master is mounted for the slot. -/
def recordMasterMode (record : Option ViewRecord) : Except Raised Bool :=
  match (record.bind fun record => record.identity.masterMode).getD "" with
  | "" => .ok true
  | "per_slot_cifs" => .ok true
  | "shared_policy_mount" => .ok false
  | mode => .error (.unknownMasterMode mode)

/-- The arguments of a detach; a corpus that is not registered has no directories. -/
structure DetachRequest where
  slot : String
  corpus : Option Corpus
  share : Option String

/-- What a detach removes. -/
structure Detached where
  views : ViewsState
  key : ViewKey
  record : Option ViewRecord

/-- The view that a detach is for: its corpus and its record, and the text of its share. -/
def DetachRequest.target (request : DetachRequest) (views : ViewsState) :
    Except Raised (Corpus × Option ViewRecord) := do
  let record := views.getViewRecord (request.slot, request.corpus.getD primaryCorpus)
  match (record.map fun record => record.identity.share).or request.share with
  | none => throw .noShare
  | some source =>
      let share ← parseSmbShare source
      if shareIsWritable share then
        throw .ownFolder
      match request.corpus with
      | some corpus => return (corpus, record)
      | none =>
          let corpus ← corpusForShare share
          return (corpus, views.getViewRecord (request.slot, corpus))

/-- A master of the slot is unmounted with the view, a shared one is not. -/
def unmountMaster (perSlot : Bool) (slot : String) (corpus : Corpus) : Run (List String) :=
  if perSlot then unmountTree .work (hiddenMaster slot corpus) else return []

/-- The `try` of `cmd_nas_view_detach`. -/
def detachView (request : DetachRequest) : Run Detached := do
  let views ← Op.loadViews.run
  let (corpus, record) ← Program.ofExcept (request.target views)
  let perSlot ← Program.ofExcept (recordMasterMode record)
  let entryErrors ← unmountTree .work (slotEntry request.slot corpus)
  let viewErrors ← unmountTree .work (viewRoot request.slot corpus)
  let masterErrors ← unmountMaster perSlot request.slot corpus
  let failures := entryErrors ++ viewErrors ++ masterErrors
  if failures ≠ [] then
    throw (.umountFailed failures)
  else
    Outside.removeRegistration.run
    return { views := views, key := (request.slot, corpus), record := record }

/-- Save the state without the record of the view, if there was one. -/
def dropRecord (detached : Detached) : Run Unit :=
  if detached.record.isSome then
    (Op.saveViews (detached.views.dropViewRecord detached.key)
      (some { key := detached.key, row := none })).run
  else return ()

/-- `cmd_nas_view_detach`: the exit code.  A save that fails is not handled. -/
def cmdNasViewDetach (request : DetachRequest) : Run Nat := do
  if !(← Op.isRoot.run) then
    return 2
  else
    match ← attempt (detachView request) with
    | .error _ =>
        Outside.appendActionLog.run
        return 1
    | .ok detached =>
        dropRecord detached
        Outside.appendActionLog.run
        return 0

/-! ## Restoring the views after a boot -/

/-- Restore one view; the number of rooms that are bound, and the missing ones. -/
def restoreView (key : ViewKey) (record : ViewRecord) : Run (Nat × List String) := do
  let _ ← Program.ofExcept (recordMasterMode (some record))
  let _ ← (Op.prepareMaster key.1 record.identity.share key.2).run
  let share ← Program.ofExcept (parseSmbShare record.identity.share)
  let plan ← (Op.buildViewPlan key.1 record.identity.userId share key.2 record.identity.paths).run
  match ← applyBinds plan.val with
  | .error reason => throw (.bindFailed reason)
  | .ok bound => return (bound, plan.val.missingRooms)

/-- `_restore_views`: the state with what was bound, and how many views failed. -/
def restoreViews (views : ViewsState) (failed : Nat) :
    List (ViewKey × ViewRecord) → Run (ViewsState × Nat)
  | [] => return (views, failed)
  | (key, record) :: rest => do
      let restored ← attempt (restoreView key record)
      Outside.appendActionLog.run
      match restored with
      | .error _ => restoreViews views (failed + 1) rest
      | .ok (bound, missing) => restoreViews (views.setRooms key bound missing) failed rest

/-- Save what was restored; a state without records is not saved. -/
def saveRestored (records : List (ViewKey × ViewRecord)) (restored : ViewsState) : Run Unit :=
  if records = [] then return () else (Op.saveViews restored none).run

/-- `cmd_nas_view_restore`: the exit code.  It locks only other restores out, and only after it has
read the state. -/
def cmdNasViewRestore : Run Nat := do
  if !(← Op.isRoot.run) then
    return 2
  else
    let views ← Op.loadViews.run
    let records := views.iterViewRecords
    let booted ← Op.bootPreparation.run
    let (restored, failed) ← restoreViews views 0 records
    let workspaces ← Op.restoreWorkspace.run
    let saved ← attempt (saveRestored records restored)
    if booted && workspaces && failed == 0 && saved.isOk then
      return 0
    else
      return 1

/-! ## Executing the commands -/

/-- A plan that binds these directories of the master under the view, each under its last name. -/
def planOf (slot userId : String) (share : Share) (corpus : Corpus) (rooms : List String) :
    ViewPlan where
  slot := slot
  corpus := corpus
  userId := userId
  share := share
  packageDir := none
  roomBinds := rooms.map fun room =>
    (hiddenMaster slot corpus ++ [room], viewRoot slot corpus ++ [room])
  missingRooms := []
  paths := rooms
  under_view := by
    intro bind hbind
    obtain ⟨room, -, rfl⟩ := List.mem_map.mp hbind
    exact List.prefix_append _ _

/-- A host where these operations raise before they do anything, and all others succeed; a view is
planned from the paths of the request. -/
def answer (raises : Op → Bool) (op : Op) (w : World) : Except Raised op.Res × World :=
  if raises op then (.error .outside, w)
  else
    match op with
    | .outside _ => (.ok (), w)
    | .isRoot => (.ok true, w)
    | .now => (.ok "now", w)
    | .checkNasPolicy slot source =>
        match parseSmbShare source with
        | .ok share => (.ok { slot := slot, share := share, allowed := true }, w)
        | .error e => (.error e, w)
    | .loadViews => (.ok w.views, w)
    | .fullyMounted .. => (.ok false, w)
    | .prepareMaster slot _ corpus =>
        (.ok { mode := "per_slot_cifs", path := hiddenMaster slot corpus }, w)
    | .buildViewPlan slot userId share corpus paths =>
        (.ok ⟨planOf slot userId share corpus paths, rfl, rfl⟩, w)
    | .checkBind .. => (.ok (.ok { isDirectory := some true, identity := 0 }), w)
    | .lstat _ => (.ok (some 0), w)
    | .findmntOne target => (.ok (.ok (if target ∈ w.mounts then some true else none)), w)
    | .findmntUnder _ root => (.ok (.ok (w.mounts.filter fun target => root <+: target)), w)
    | .umount _ target =>
        if target ∈ w.mounts then (.ok (.ok ()), w.unmount target)
        else (.ok (.error "not mounted"), w)
    | .makeTarget _ => (.ok (.ok ()), w)
    | .bind recursive source target => (.ok (.ok ()), w.mount recursive source target)
    | .remount _ => (.ok (.ok ()), w)
    | .bootPreparation => (.ok true, w)
    | .restoreWorkspace => (.ok true, w)
    | .saveViews views change => (.ok (), w.store views change)

lemma answer_outcome (raises : Op → Bool) (op : Op) (w : World) :
    Outcome w op (answer raises op w).1 (answer raises op w).2 := by
  unfold answer
  by_cases hraises : raises op = true
  · rw [if_pos hraises]
    cases op with
    | loadViews => exact ⟨rfl, .inr ⟨_, rfl⟩⟩
    | findmntOne => exact ⟨rfl, nofun⟩
    | findmntUnder => exact ⟨rfl, nofun⟩
    | umount => exact .inr (.inr ⟨⟨_, rfl⟩, .inl rfl⟩)
    | bind => exact .inr (.inr ⟨⟨_, rfl⟩, .inl rfl⟩)
    | saveViews => exact .inr ⟨⟨_, rfl⟩, .inl rfl⟩
    | _ => exact rfl
  · rw [if_neg hraises]
    cases op with
    | loadViews => exact ⟨rfl, .inl rfl⟩
    | checkNasPolicy slot source =>
        dsimp only
        cases parseSmbShare source <;> exact rfl
    | findmntOne target =>
        refine ⟨rfl, ?_⟩
        rintro found ⟨⟩
        by_cases hmem : target ∈ w.mounts
        · simp [hmem]
        · simp [hmem]
    | findmntUnder purpose root =>
        refine ⟨rfl, ?_⟩
        rintro targets ⟨⟩ target
        simp [List.mem_filter]
    | umount purpose target =>
        dsimp only
        by_cases hmem : target ∈ w.mounts
        · rw [if_pos hmem]
          exact .inl ⟨rfl, hmem, rfl⟩
        · rw [if_neg hmem]
          exact .inr (.inl ⟨⟨_, rfl⟩, rfl⟩)
    | bind => exact .inl ⟨rfl, rfl⟩
    | saveViews => exact .inl ⟨rfl, rfl⟩
    | _ => exact rfl

end AgentRuntimeOps.NasView
