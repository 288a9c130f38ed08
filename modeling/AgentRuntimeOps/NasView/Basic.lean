import AgentRuntimeOps.Lib.Crash
import AgentRuntimeOps.Lib.Rewriting
import Mathlib.Data.List.Sort

/-!
# NAS views of slots

`domain/nas_views.py` and `host/bind_mounts.py`: the record of the views in `nas-views.yaml`, and the
bind mounts that make a view.

The mounts are the targets of the mount table, with a target as often as something is mounted there.
A slot is the account that `validate_linux_account` accepted; the records of the primary corpus
(`views`) and of the others (`corpus_views`) are one table here, by slot and corpus.
-/

namespace AgentRuntimeOps.NasView

open AgentRuntimeOps.Lib

/-! ## Paths and corpora -/

/-- An absolute path, by its components. -/
abbrev Path : Type := List String

/-- The text of a path. -/
def Path.text (path : Path) : String := "/" ++ String.intercalate "/" path

/-- The registered corpora, by their names. -/
inductive Corpus where
  | kakao
  | groupware
  | whatsapp
  deriving DecidableEq, Repr

/-- `PRIMARY_CORPUS` -/
def primaryCorpus : Corpus := .kakao

/-- `entry_name` -/
def Corpus.entryName : Corpus → String
  | kakao => "kw"
  | groupware => "groupware"
  | whatsapp => "whatsapp"

/-- `name` -/
def Corpus.name : Corpus → String
  | kakao => "kakao"
  | groupware => "groupware"
  | whatsapp => "whatsapp"

/-- `SmbShare`, without the lower-case copy of the host. -/
structure Share where
  host : String
  share : String
  deriving DecidableEq, Repr

/-- `source` -/
def Share.source (share : Share) : String := "//" ++ share.host ++ "/" ++ share.share

/-- `share_is_writable`. -/
def shareIsWritable (share : Share) : Bool :=
  match share.share.toList with
  | o :: c :: digits => (o == 'O' || o == 'o') && (c == 'C' || c == 'c') && !digits.isEmpty &&
      digits.all Char.isDigit
  | _ => false

/-- `slot_views_root`: the primary corpus lives beside the directories of the others. -/
def slotViewsRoot (slot : String) (corpus : Corpus) : Path :=
  ["srv", "kw-nas", "slots", slot] ++ if corpus = primaryCorpus then [] else [corpus.name]

/-- `hidden_master`. -/
def hiddenMaster (slot : String) (corpus : Corpus) : Path := slotViewsRoot slot corpus ++ ["master"]

/-- `view_root`. -/
def viewRoot (slot : String) (corpus : Corpus) : Path := slotViewsRoot slot corpus ++ ["view"]

/-- `slot_entry`. -/
def slotEntry (slot : String) (corpus : Corpus) : Path :=
  ["home", slot, "nas_docs", corpus.entryName]

/-! ## Records -/

/-- What a record says of a view once and for all. -/
structure ViewIdentity where
  userId : String
  share : String
  masterMode : Option String
  masterPath : Option String
  package : String
  paths : List String
  assignedAt : String
  deriving DecidableEq, Repr

/-- The record of a view; a restore writes the last two fields again. -/
structure ViewRecord where
  identity : ViewIdentity
  roomsBound : Nat
  roomsMissingMedia : List String
  deriving DecidableEq, Repr

/-- The slot and the corpus of a view. -/
abbrev ViewKey : Type := String × Corpus

/-- The state that `load_views_state` returns: the records, each key at most once. -/
structure ViewsState where
  records : List (ViewKey × ViewRecord)
  deriving DecidableEq, Repr

namespace ViewsState

/-- `get_view_record`. -/
def getViewRecord (views : ViewsState) (key : ViewKey) : Option ViewRecord :=
  views.records.lookup key

/-- `drop_view_record`. -/
def dropViewRecord (views : ViewsState) (key : ViewKey) : ViewsState where
  records := views.records.filter fun item => item.1 ≠ key

/-- `put_view_record`. -/
def putViewRecord (views : ViewsState) (key : ViewKey) (record : ViewRecord) : ViewsState where
  records := (key, record) :: (views.dropViewRecord key).records

/-- A restore writes what it bound to the record that it read. -/
def setRooms (views : ViewsState) (key : ViewKey) (bound : Nat) (missing : List String) :
    ViewsState where
  records := views.records.map fun item =>
    if item.1 = key then
      (item.1, { item.2 with roomsBound := bound, roomsMissingMedia := missing })
    else item

/-- `iter_view_records`: the primary corpus first, then by slot and corpus. -/
def iterViewRecords (views : ViewsState) : List (ViewKey × ViewRecord) :=
  let primary := views.records.filter fun item => item.1.2 = primaryCorpus
  let others := views.records.filter fun item => item.1.2 ≠ primaryCorpus
  primary.mergeSort (fun a b => a.1.1 ≤ b.1.1) ++
    others.mergeSort fun a b => a.1.1 < b.1.1 ∨ a.1.1 = b.1.1 ∧ a.1.2.name ≤ b.1.2.name

/-- The views that are recorded, whatever was bound. -/
def identities (views : ViewsState) (key : ViewKey) : Option ViewIdentity :=
  (views.getViewRecord key).map ViewRecord.identity

end ViewsState

/-! ## Plans -/

/-- `ViewPlan`; every room is bound under the view. -/
structure ViewPlan where
  slot : String
  corpus : Corpus
  userId : String
  share : Share
  packageDir : Option Path
  roomBinds : List (Path × Path)
  missingRooms : List String
  paths : List String
  under_view : ∀ bind ∈ roomBinds, viewRoot slot corpus <+: bind.2

namespace ViewPlan

/-- `view` -/
def view (plan : ViewPlan) : Path := viewRoot plan.slot plan.corpus

/-- `entry` -/
def entry (plan : ViewPlan) : Path := slotEntry plan.slot plan.corpus

/-- `package_bind` -/
def packageBind (plan : ViewPlan) : Path := plan.view ++ ["package"]

end ViewPlan

/-! ## Operations -/

/-- What the commands raise. -/
inductive Raised where
  /-- The exception of a step that is not ours to compute. -/
  | outside
  /-- `policy denied: {reason}` -/
  | policyDenied
  /-- A share that is mounted by `nas mount`. -/
  | ownFolder
  /-- `share must have the form //HOST/SHARE` -/
  | badShare
  /-- `unknown corpus share` -/
  | unknownCorpus
  /-- `slot already has a {corpus} view` -/
  | viewExists
  /-- `share is fully mounted for slot` -/
  | fullyMounted
  /-- `bind_failed: {reason}` -/
  | bindFailed (reason : String)
  /-- `view not recorded and no --share given` -/
  | noShare
  /-- `unknown_master_mode:{mode}` -/
  | unknownMasterMode (mode : String)
  /-- `umount_failed: ` and the failures -/
  | umountFailed (failures : List String)
  deriving DecidableEq, Repr

/-- Where `unmount_tree` is called. -/
inductive Purpose where
  /-- In `bind_ro` and in a detach. -/
  | work
  /-- In the two clean-ups of an assign, and in the one that a restore shares with it. -/
  | cleanUp
  deriving DecidableEq, Repr

/-- The kind and the identity of what is to be bound. -/
structure BindSource where
  /-- `none` for what is neither a directory nor a regular file. -/
  isDirectory : Option Bool
  /-- `_path_identity` -/
  identity : Nat
  deriving DecidableEq, Repr

/-- The decision of `check_nas_policy`. -/
structure PolicyDecision where
  slot : String
  share : Share
  allowed : Bool
  deriving DecidableEq, Repr

/-- The master that delivers the content of a view. -/
structure Master where
  mode : String
  path : Path
  deriving DecidableEq, Repr

/-- Steps that matter here only by whether they raise. -/
inductive Outside where
  /-- `_append_action_log`. -/
  | appendActionLog
  /-- The fstab entry and the readable copy of the credential that a detach removes. -/
  | removeRegistration
  deriving DecidableEq, Repr

/-- The steps the commands are made of. -/
inductive Op where
  | outside (step : Outside)
  /-- `_is_root()` -/
  | isRoot
  | now
  | checkNasPolicy (slot source : String)
  | loadViews
  /-- The full share is mounted for the slot. -/
  | fullyMounted (slot : String) (share : Share)
  /-- What an assign or a restore does for the master of a view: directories, credentials, fstab
  entries, the mount of the master or the checks of a shared one. -/
  | prepareMaster (slot : String) (share : String) (corpus : Corpus)
  /-- `build_view_plan`. -/
  | buildViewPlan (slot userId : String) (share : Share) (corpus : Corpus) (paths : List String)
  /-- `_reject_existing_symlink_components` and `lstat`, whose exceptions `bind_ro` handles. -/
  | checkBind (source target : Path)
  /-- The second `lstat`. -/
  | lstat (source : Path)
  /-- `findmnt_one`: whether something is mounted, and if it is read-only, nosuid and nodev. -/
  | findmntOne (target : Path)
  /-- `findmnt_under`. -/
  | findmntUnder (purpose : Purpose) (root : Path)
  | umount (purpose : Purpose) (target : Path)
  /-- `mkdir` or `touch` of a target. -/
  | makeTarget (target : Path)
  | bind (recursive : Bool) (source target : Path)
  /-- `mount -o remount,ro,nosuid,nodev,bind` -/
  | remount (target : Path)
  /-- The lock of a restore, waiting for the NAS and `mount -a`: whether all of it went well. -/
  | bootPreparation
  /-- `restore_managed_workspace_binds`: whether every bind is restored. -/
  | restoreWorkspace
  /-- `save_views_state`, and the change of a row that it is made for. -/
  | saveViews (views : ViewsState) (change : Option (RowChange ViewKey ViewIdentity))

/-- What an operation answers; the inner `Except` is a return code with its text. -/
@[reducible] def Op.Res : Op → Type
  | .outside _ => Unit
  | .isRoot => Bool
  | .now => String
  | .checkNasPolicy .. => PolicyDecision
  | .loadViews => ViewsState
  | .fullyMounted .. => Bool
  | .prepareMaster .. => Master
  | .buildViewPlan slot _ _ corpus _ => { plan : ViewPlan // plan.slot = slot ∧ plan.corpus = corpus }
  | .checkBind .. => Except String BindSource
  | .lstat _ => Option Nat
  | .findmntOne _ => Except String (Option Bool)
  | .findmntUnder .. => Except String (List Path)
  | .umount .. => Except String Unit
  | .makeTarget _ => Except String Unit
  | .bind .. => Except String Unit
  | .remount _ => Except String Unit
  | .bootPreparation => Bool
  | .restoreWorkspace => Bool
  | .saveViews .. => Unit

/-- A computation of a command. -/
abbrev Run (α : Type) : Type := Program Op Op.Res Raised α

/-- One operation. -/
abbrev Op.run (op : Op) : Run op.Res := Program.perform op

/-- One step that is only known by whether it raises. -/
abbrev Outside.run (step : Outside) : Run Unit := (Op.outside step).run

/-- `try: p except Exception as exc: …` -/
def attempt {α : Type} (p : Run α) : Run (Except Raised α) :=
  tryCatch (do
    let a ← p
    return .ok a) fun e => return .error e

/-! ## What an operation does -/

/-- The stored records and the mount table; and the changes of rows that were stored, the last one
first. -/
structure World where
  views : ViewsState
  mounts : List Path
  log : List (RowChange ViewKey ViewIdentity)

namespace World

/-- Something is mounted at or under the directory. -/
def MountedUnder (w : World) (root : Path) : Prop := ∃ target ∈ w.mounts, root <+: target

/-- The world after a bind mount; a recursive one takes the mounts below the source along. -/
def mount (w : World) (recursive : Bool) (source target : Path) : World :=
  let below := w.mounts.filter fun path => source <+: path ∧ path ≠ source
  { w with mounts := target ::
      (if recursive then below.map fun path => target ++ path.drop source.length else []) ++
      w.mounts }

/-- The world after `umount` of one mount. -/
def unmount (w : World) (target : Path) : World := { w with mounts := w.mounts.erase target }

/-- The world after `nas-views.yaml` is replaced. -/
def store (w : World) (views : ViewsState) (change : Option (RowChange ViewKey ViewIdentity)) :
    World :=
  { w with views := views, log := change.toList ++ w.log }

end World

/-- What an operation may answer.  Every step may raise, also after it was done. -/
def Outcome : Program.Answers Op Op.Res Raised World := fun w op =>
  match op with
  | .loadViews => fun r w' => w' = w ∧ (r = .ok w.views ∨ ∃ e, r = .error e)
  | .findmntOne target => fun r w' => w' = w ∧ ∀ found, r = .ok (.ok found) →
      (found.isSome ↔ target ∈ w.mounts)
  | .findmntUnder _ root => fun r w' => w' = w ∧ ∀ targets, r = .ok (.ok targets) →
      ∀ target, target ∈ targets ↔ target ∈ w.mounts ∧ root <+: target
  | .umount _ target => fun r w' =>
      (r = .ok (.ok ()) ∧ target ∈ w.mounts ∧ w' = w.unmount target) ∨
      (∃ text, r = .ok (.error text)) ∧ w' = w ∨
      (∃ e, r = .error e) ∧ (w' = w ∨ w' = w.unmount target)
  | .bind recursive source target => fun r w' =>
      (r = .ok (.ok ()) ∧ w' = w.mount recursive source target) ∨
      (∃ text, r = .ok (.error text)) ∧ w' = w ∨
      (∃ e, r = .error e) ∧ (w' = w ∨ w' = w.mount recursive source target)
  | .saveViews views change => fun r w' =>
      (r = .ok () ∧ w' = w.store views change) ∨
      (∃ e, r = .error e) ∧ (w' = w ∨ w' = w.store views change)
  | _ => fun _ w' => w' = w

end AgentRuntimeOps.NasView
