import AgentRuntimeOps.Runtime.Sessions

/-!
# Image rollouts

The three rollout commands of `commands/rollout.py`.  `image-dev-apply` and `image-canary` apply to
one slot, `image-promote` to several, one after the other.  Whether an apply opens a canary
transaction is decided by the name of its action, which the commands assemble.
-/

namespace AgentRuntimeOps.Runtime

open AgentRuntimeOps.Lib Program

section rollouts

variable [Host]

/-- The slots of a host. -/
abbrev Fleet : Type := List Char → SlotState

/-- A computation on the slots of a host. -/
abbrev FleetRun (α : Type) : Type := Program (List Char × Op) (fun op => op.2.Res) Raised α

/-- Who runs a command: `_is_root`, and what `_authorize_deploy_target` answers for the target. -/
structure Invocation where
  isRoot : Bool
  authorized : Bool

/-! ## The commands -/

/-- What `_cmd_rollout_image_apply_slot` asks of `apply_desired_slot`. -/
def applySlotRequest (actionName : List Char) (desired : Desired) (allowFirstApply : Bool) :
    ApplyRequest where
  desired := desired
  allowFirstApply := allowFirstApply
  actionName := "rollout_".toList ++ actionName
  preparesEnv := true
  preApplyAdmission := .none

/-- The checks of `_cmd_rollout_image_apply_slot` on its target. -/
def checkRolloutTarget : Run Unit := do
  Check.rolloutTarget.run
  Check.runtimeDir.run

/-- `_cmd_rollout_image_apply_slot`. -/
def cmdRolloutImageApplySlot (invocation : Invocation) (request : ApplyRequest) : Run Nat :=
  if !(invocation.isRoot && invocation.authorized) then
    return 2
  else do
    match ← attempt checkRolloutTarget with
    | .error _ =>
        quietly appendActionLog
        return 1
    | .ok _ =>
        let report ← applyDesiredSlot request
        return report.code

/-- What `cmd_rollout_image_promote` asks of `apply_desired_slot`. -/
def promotion (desired : Desired) : ApplyRequest where
  desired := desired
  allowFirstApply := false
  actionName := "rollout_image_promote".toList
  preparesEnv := true
  preApplyAdmission := .promotion

/-- The checks of `cmd_rollout_image_promote` on one target, before any is applied. -/
def checkPromotionTarget : Run Unit := do
  Check.runtimeDir.run
  let manifest ← (Op.readFile .manifest).run
  let stateManifest ← (Op.readFile .stateManifest).run
  if !(manifest.isSome || stateManifest.isSome) then
    throw .promotionManifest
  match ← pendingRollbackBackup with
  | some pending => throw (.promotionPending pending)
  | none =>
    Check.renderCompose.run
    Check.staticChecks.run

/-- The checks of `cmd_rollout_image_promote` on all targets. -/
def checkPromotionTargets : List Desired → FleetRun Unit
  | [] => return ()
  | desired :: rest => do
      onKey desired.slot checkPromotionTarget
      checkPromotionTargets rest

/-- Apply to the targets one after the other, until one fails. -/
def promoteTargets : List Desired → FleetRun Nat
  | [] => return 0
  | desired :: rest => do
      let report ← onKey desired.slot (applyDesiredSlot (promotion desired))
      if report.code = 0 then
        promoteTargets rest
      else do
        onKey desired.slot appendActionLog
        return report.code

/-- The targets of a promotion are named, are different slots, and not the source. -/
def promotable (fromSlot : List Char) (targets : List Desired) : Bool :=
  let slots := targets.map Desired.slot
  !slots.isEmpty && decide slots.Nodup && !slots.contains fromSlot

/-- `cmd_rollout_image_promote`. -/
def cmdRolloutImagePromote (invocation : Invocation) (fromSlot : List Char)
    (targets : List Desired) : FleetRun Nat :=
  if !invocation.isRoot then
    return 2
  else
    tryCatch
      (do
        onKey fromSlot Check.promotionSource.run
        if promotable fromSlot targets then do
          checkPromotionTargets targets
          promoteTargets targets
        else
          throw .promotionTargets)
      fun _ => do
        onKey fromSlot (quietly appendActionLog)
        return 1

/-- The rollout commands. -/
inductive RolloutCommand where
  | imageDevApply (desired : Desired) (allowFirstApply : Bool)
  | imageCanary (desired : Desired) (allowFirstApply : Bool)
  | imagePromote (fromSlot : List Char) (targets : List Desired)

/-- What a command deploys. -/
def RolloutCommand.targets : RolloutCommand → List Desired
  | .imageDevApply desired _ => [desired]
  | .imageCanary desired _ => [desired]
  | .imagePromote _ targets => targets

/-- Whether a command is `image-promote`. -/
def RolloutCommand.isPromote : RolloutCommand → Bool
  | .imagePromote _ _ => true
  | _ => false

/-- `cmd_rollout_image_dev_apply`, `cmd_rollout_image_canary` and `cmd_rollout_image_promote`. -/
def RolloutCommand.run (invocation : Invocation) : RolloutCommand → FleetRun Nat
  | .imageDevApply desired allowFirstApply =>
      onKey desired.slot (cmdRolloutImageApplySlot invocation
        (applySlotRequest "image-dev-apply".toList desired allowFirstApply))
  | .imageCanary desired allowFirstApply =>
      onKey desired.slot (cmdRolloutImageApplySlot invocation
        (applySlotRequest "image-canary".toList desired allowFirstApply))
  | .imagePromote fromSlot targets => cmdRolloutImagePromote invocation fromSlot targets

/-! ## Coverage by a canary transaction -/

/-- The operation replaces the compose file. -/
def Op.WritesCompose : Op → Prop
  | .effect (.writeFile .compose _ _) => True
  | _ => False

/-- The transaction binds the image digests of the candidate and of the deployment before it. -/
def Binds (w₀ : SlotState) (desired : Desired) (tx : CanaryTransaction) : Prop :=
  desired.candidate? = some tx.candidate ∧ ∃ b c, b.Of w₀.files ∧ Host.contract b = .ok c ∧
    ImagePair.ofImages? c.productImage c.wrapperImage = some tx.prestate

/-- A canary transaction that was not open in `w₀` is open, and binds the candidate and the
deployment before it. -/
def OpenedFirst (w₀ : SlotState) (desired : Desired) (w : SlotState) : Prop :=
  ∃ tx, w.canary = some tx ∧ w₀.canary ≠ some tx ∧ w₀.tokens ≤ tx.transactionId ∧
    Binds w₀ desired tx

/-- One receipt was added: that of a new transaction that binds the candidate, for its success. -/
def OneCandidateReceipt (w₀ : SlotState) (desired : Desired) (w : SlotState) : Prop :=
  ∃ tx r, Binds w₀ desired tx ∧ w₀.tokens ≤ tx.transactionId ∧ w.receipts = r :: w₀.receipts ∧
    r.transactionId = tx.transactionId ∧ r.outcome = .candidateSucceeded

variable {fault : Faults} {w₀ w w' : SlotState} {request : ApplyRequest}

omit [Host] in
lemma not_careful_anyFault : ¬ Careful anyFault := fun h =>
  h { files := fun _ => none, backups := [], stagings := 0, marker := none, canary := none,
      receipts := [], temp := none, containers := none, tokens := 0 } .readCanary false
    (.inl ⟨rfl, trivial⟩) trivial

omit [Host] in
lemma Op.WritesCompose.writesFile {op : Op} (h : op.WritesCompose) : op.WritesFile := by
  cases op with
  | effect e =>
      cases e with
      | writeFile => exact trivial
      | _ => exact h.elim
  | _ => exact h.elim

/-- A promotion of a slot with a manifest. -/
lemma safe_promotion (desired : Desired) (hmanifest : w₀.hasManifest = true) :
    Safe ⟨fun w op => op.WritesCompose → OpenedFirst w₀ desired w, Outcome anyFault⟩
      (fun w r => r.code = 0 → OneCandidateReceipt w₀ desired w) (fun _ _ => True) w₀
      (applyDesiredSlot (promotion desired)) := by
  have hopens : OpensCanary w₀ (promotion desired) := ⟨rfl, hmanifest⟩
  have hstart : Starts anyFault w₀ (promotion desired) :=
    ⟨fun _ => .inr hopens, fun hc => absurd hc not_careful_anyFault⟩
  have hbinds : ∀ {name : BackupName} {b : Backup} {tx : CanaryTransaction}, b.Of w₀.files →
      Own w₀ (promotion desired) name b tx → Binds w₀ desired tx := by
    intro name b tx hof hown
    obtain ⟨c, hc, hpair⟩ := hown.prestate
    exact ⟨hown.candidate, b, c, hof, hc, hpair⟩
  refine Safe.mono (safe_mono_pre (safe_applyDesiredSlot hstart) ?_) ?_ fun _ _ _ => trivial
  · intro w op hcrash hop
    obtain ⟨hclosed, name, b, hof, hunder, hopen⟩ := hcrash.covered hop.writesFile
    rcases hunder.canary with hnone | ⟨tx, htx, hown, -⟩
    · have hsome := hopen rfl hmanifest
      rw [hnone] at hsome
      cases hsome
    · refine ⟨tx, htx, ?_, hown.fresh, hbinds hof hown⟩
      rw [hclosed]
      exact nofun
  · intro w r hreported hcode
    obtain ⟨-, hcommitted⟩ := hreported.committed hcode
    obtain ⟨name, b, hof, ⟨-, tx, hown, -, hreceipts⟩ | ⟨hnot, -⟩⟩ := hcommitted.receipts
    · exact ⟨tx, _, hbinds hof hown, hown.fresh, hreceipts, rfl, rfl⟩
    · cases hnot

/-! ## Applies that are not image rollouts -/

section plain

/-- Steps that touch neither the canary transaction nor a receipt. -/
lemma safe_offCanary {α : Type} {p : Run α} (hp : AllOps Op.OffCanary p) (h : w₀.SameCanary w) :
    Safe ⟨fun w op => op.WritesCompose → w₀.SameCanary w, Outcome fault⟩
      (fun w _ => w₀.SameCanary w) (fun w _ => w₀.SameCanary w) w p :=
  safe_mono_pre
    (safe_invariant hp (fun _ _ _ _ hop hv hr => hv.trans (hop.sameCanary hr)) h)
    fun _ _ h _ => h.1

/-- Steps that do not replace the compose file. -/
lemma safe_offCompose {α : Type} {p : Run α} (hp : AllOps (fun op => ¬ op.WritesCompose) p) :
    Safe ⟨fun w op => op.WritesCompose → w₀.SameCanary w, Outcome fault⟩
      (fun _ _ => True) (fun _ _ => True) w p :=
  safe_mono_pre (safe_invariant hp (fun _ _ _ _ _ h _ => h) trivial) fun _ _ h hop => absurd hop h.2

omit [Host] in
lemma Op.Looks.offCanary {op : Op} (h : op.Looks) : op.OffCanary := by
  cases op with
  | effect => exact h.elim
  | _ => exact trivial

omit [Host] in
lemma Op.Archives.offCanary {op : Op} (h : op.Archives) : op.OffCanary := by
  cases op with
  | effect e =>
      cases e with
      | writeCanary | writeReceipt | unlinkCanary => exact h.elim
      | _ => exact trivial
  | _ => exact trivial

omit [Host] in
lemma Op.Restores.offCompose {op : Op} (h : op.Restores) : ¬ op.WritesCompose := fun hop =>
  h.2 hop.writesFile

omit [Host] in
lemma looks_preflight (request : ApplyRequest) : AllOps Op.Looks (preflight request) := by
  have hrun : ∀ {op : Op}, op.Looks → AllOps Op.Looks op.run := allOps_perform.mpr
  unfold preflight
  refine allOps_bind (hrun trivial) fun _ => allOps_bind (hrun trivial) fun _ => ?_
  refine allOps_bind (hrun trivial) fun _ => allOps_bind (hrun trivial) fun _ => ?_
  refine allOps_bind (hrun trivial) fun _ => allOps_bind (hrun trivial) fun _ => ?_
  dsimp only
  split
  · exact trivial
  · refine allOps_bind (hrun trivial) fun _ => allOps_bind (hrun trivial) fun _ => ?_
    exact allOps_bind (hrun trivial) fun _ => trivial

lemma offCanary_openTransactions {hasManifest : Bool} {name : BackupName}
    (h : isImageRollout request.actionName = false) :
    AllOps Op.OffCanary (openTransactions request hasManifest name) := by
  refine allOps_bind ((restores_beginRollbackTransaction name).mono fun _ h => h.1) fun _ => ?_
  rw [h]
  exact trivial

omit [Host] in
lemma offCanary_writeCompose (request : ApplyRequest) :
    AllOps Op.OffCanary (writeCompose request) := by
  have hrun : ∀ {op : Op}, op.OffCanary → AllOps Op.OffCanary op.run := allOps_perform.mpr
  unfold writeCompose
  split
  · refine allOps_bind (hrun trivial) fun _ => allOps_bind (hrun trivial) fun _ => hrun trivial
  · exact allOps_bind (hrun trivial) fun _ => hrun trivial

omit [Host] in
lemma offCanary_commitApply {name : BackupName} (h : isImageRollout request.actionName = false) :
    AllOps Op.OffCanary (commitApply request name) := by
  have hrun : ∀ {op : Op}, op.OffCanary → AllOps Op.OffCanary op.run := allOps_perform.mpr
  refine allOps_bind ?_ fun _ => allOps_bind ?_ fun _ => allOps_bind ?_ fun _ => hrun trivial
  · refine allOps_bind (hrun trivial) fun _ => allOps_bind (hrun trivial) fun _ => ?_
    exact allOps_bind (hrun trivial) fun _ => hrun trivial
  · exact (restores_finishRollbackTransaction name).mono fun _ h => h.1
  · unfold finishCandidate
    rw [h]
    exact trivial

/-- The operation does not replace the compose file. -/
def Op.OffCompose (op : Op) : Prop := ¬ op.WritesCompose

omit [Host] in
lemma offCompose_run {op : Op} (h : op.OffCompose) : AllOps Op.OffCompose op.run :=
  allOps_perform.mpr h

omit [Host] in
lemma offCompose_load (slot : List Char) : AllOps Op.OffCompose (Canary.load slot) := by
  unfold Canary.load
  dsimp only
  split
  · exact trivial
  refine allOps_bind (allOps_tryCatch (offCompose_run id) fun _ => trivial) fun loaded => ?_
  cases loaded with
  | none => exact trivial
  | some tx =>
      dsimp only
      split
      · exact trivial
      · exact trivial

omit [Host] in
lemma offCompose_finish (slot : List Char) (outcome : CanaryOutcome) (result : ImagePair) :
    AllOps Op.OffCompose (Canary.finish slot outcome result) := by
  have hrequire : ∀ (pair : ImagePair) (found : CanaryTransaction → ImagePair) (e : Raised),
      AllOps Op.OffCompose (do
        let tx ← Canary.load slot
        if !pair.canonical then
          throw .digestForm
        if found tx ≠ pair then
          throw e
        return tx : Run CanaryTransaction) := by
    intro pair found e
    refine allOps_bind (offCompose_load slot) fun tx => ?_
    dsimp only
    split
    · exact trivial
    split
    · exact trivial
    · exact trivial
  have hend : AllOps Op.OffCompose (do
      Effect.unlinkCanary.run : Run Unit) := offCompose_run id
  refine allOps_bind (offCompose_load slot) fun tx => ?_
  dsimp only
  split
  · exact trivial
  cases outcome with
  | candidateSucceeded =>
      refine allOps_bind (hrequire result CanaryTransaction.candidate _) fun _ => ?_
      exact allOps_bind (offCompose_run id) fun _ => hend
  | rollbackSucceeded =>
      refine allOps_bind (hrequire result CanaryTransaction.prestate _) fun _ => ?_
      exact allOps_bind (offCompose_run id) fun _ => hend

omit [Host] in
lemma offCompose_finishCanaryRollback (slot : List Char) (name : BackupName) :
    AllOps Op.OffCompose (finishCanaryRollback slot name) := by
  refine allOps_bind (allOps_tryCatch ?_ fun e => ?_) fun loaded => ?_
  · exact allOps_bind (offCompose_load slot) fun _ => trivial
  · split
    · exact trivial
    · exact trivial
  cases loaded with
  | none => exact trivial
  | some tx =>
      refine allOps_bind (offCompose_run id) fun previous => ?_
      split
      · exact trivial
      · split
        · exact trivial
        · exact offCompose_finish _ _ _

lemma offCompose_restoreAndVerifyBackup (slot : List Char) (name : BackupName) :
    AllOps Op.OffCompose (restoreAndVerifyBackup slot name) := by
  have hrestores : ∀ {β : Type} {p : Run β}, AllOps Op.Restores p → AllOps Op.OffCompose p :=
    fun h => h.mono fun _ => Op.Restores.offCompose
  have hfinish : AllOps Op.OffCompose (do
      finishRollbackTransaction name
      finishCanaryRollback slot name
      return true : Run Bool) := by
    refine allOps_bind (hrestores (restores_finishRollbackTransaction name)) fun _ => ?_
    exact allOps_bind (offCompose_finishCanaryRollback slot name) fun _ => trivial
  refine allOps_bind (hrestores (restores_restoreBackup name none)) ?_
  rintro ⟨restored, reason⟩
  dsimp only
  split
  · exact trivial
  split
  · exact allOps_tryCatch hfinish fun _ => trivial
  · refine allOps_tryCatch ?_ fun _ => trivial
    refine allOps_bind (offCompose_run id) fun _ => allOps_bind (offCompose_run id) fun passed => ?_
    split
    · exact trivial
    · exact hfinish

/-- What is known of an apply that is not an image rollout: the canary transaction is as it was when
the compose file is replaced, and a run that succeeds writes no receipt. -/
abbrev PlainApply (fault : Faults) (w₀ w : SlotState) (p : Run ApplyReport) : Prop :=
  Safe ⟨fun w op => op.WritesCompose → w₀.SameCanary w, Outcome fault⟩
    (fun w r => r.code = 0 → w₀.SameCanary w) (fun _ _ => True) w p

lemma plain_failed {p : Run Unit} {rollback : Option Bool} (hp : AllOps Op.OffCompose p) :
    PlainApply fault w₀ w (do p; return { code := 1, rollback := rollback }) :=
  (safe_offCompose hp).bind fun _ _ _ => nofun

lemma plain_failEarly : PlainApply fault w₀ w failEarly :=
  plain_failed (allOps_tryCatch (offCompose_run id) fun _ => trivial)

lemma plain_rollBackApply {name : BackupName} :
    PlainApply fault w₀ w (rollBackApply request name) :=
  (safe_offCompose (offCompose_restoreAndVerifyBackup _ name)).bind fun _ _ _ =>
    plain_failed (offCompose_run id)

omit [Host] in
lemma offCanary_settleGuidance (n : Nat) : AllOps Op.OffCanary (settleGuidance n) := by
  induction n with
  | zero => exact trivial
  | succ n ih =>
      have hguidance : AllOps Op.OffCanary Check.workspaceGuidance.run := allOps_perform.mpr trivial
      refine allOps_bind ?_ fun result => ?_
      · exact allOps_tryCatch (allOps_bind hguidance fun _ => trivial) fun _ => trivial
      cases result with
      | error => exact trivial
      | ok => exact ih

/-- A step before the commit, and what follows it. -/
lemma plain_bind {α : Type} {p : Run α} {f : α → Run ApplyReport} (hp : AllOps Op.OffCanary p)
    (h : w₀.SameCanary w) (hf : ∀ w a, w₀.SameCanary w → PlainApply fault w₀ w (f a)) :
    PlainApply fault w₀ w (p >>= f) :=
  safe_bind.mpr ((safe_offCanary hp h).mono hf fun _ _ _ => trivial)

/-- The same for a step whose exception is kept. -/
lemma plain_attempt {α : Type} {p : Run α} {f : Except Raised α → Run ApplyReport}
    (hp : AllOps Op.OffCanary p) (h : w₀.SameCanary w)
    (hf : ∀ w a, w₀.SameCanary w → PlainApply fault w₀ w (f a)) :
    PlainApply fault w₀ w (attempt p >>= f) :=
  plain_bind (allOps_tryCatch (allOps_bind hp fun _ => trivial) fun _ => trivial) h hf

lemma plain_deploy {name : BackupName} (hplain : isImageRollout request.actionName = false)
    (h : w₀.SameCanary w) : PlainApply fault w₀ w (deploy request name) := by
  have hrun : ∀ {op : Op}, op.OffCanary → AllOps Op.OffCanary op.run := allOps_perform.mpr
  unfold deploy
  refine plain_bind (hrun trivial) h fun w₁ config h₁ => ?_
  split
  · exact plain_rollBackApply
  refine plain_bind (hrun trivial) h₁ fun w₂ up h₂ => ?_
  split
  · exact plain_rollBackApply
  refine plain_bind (offCanary_settleGuidance 1) h₂ fun w₃ guided h₃ => ?_
  split
  · exact plain_rollBackApply
  refine plain_bind (hrun trivial) h₃ fun w₄ live h₄ => ?_
  split
  · exact plain_rollBackApply
  refine plain_bind (offCanary_settleGuidance 4) h₄ fun w₅ settled h₅ => ?_
  split
  · exact plain_rollBackApply
  refine plain_attempt (offCanary_commitApply hplain) h₅ fun w₆ committed h₆ => ?_
  cases committed with
  | ok => exact fun _ => h₆
  | error e =>
      refine (safe_offCompose (offCompose_restoreAndVerifyBackup _ name)).bind fun _ ok _ => ?_
      exact plain_failed (allOps_tryCatch (offCompose_run id) fun _ => trivial)

lemma plain_applyDesiredSlotLocked (hplain : isImageRollout request.actionName = false)
    (h : w₀.SameCanary w) : PlainApply fault w₀ w (applyDesiredSlotLocked request) := by
  have hpreflight := (looks_preflight request).mono fun _ => Op.Looks.offCanary
  have hbackup := archives_backupAgentRuntimeState.mono fun _ => Op.Archives.offCanary
  have hundo : ∀ name, AllOps Op.OffCompose (undoEnv request name) := by
    intro name
    unfold undoEnv
    split
    · have hquiet : AllOps Op.Quiet ((Op.readBackup name).run >>= restoreBackupEnv) :=
        allOps_bind (quiet_run trivial) quiet_restoreBackupEnv
      refine allOps_tryCatch (hquiet.mono fun _ hop => ?_) fun _ => trivial
      exact hop.restores.offCompose
    · exact trivial
  unfold applyDesiredSlotLocked
  refine plain_attempt hpreflight h fun w₁ passed h₁ => ?_
  cases passed with
  | error => exact plain_failEarly
  | ok hasManifest =>
      refine plain_attempt hbackup h₁ fun w₂ taken h₂ => ?_
      cases taken with
      | error => exact plain_failEarly
      | ok name =>
          refine plain_attempt (offCanary_openTransactions hplain) h₂ fun w₃ opened h₃ => ?_
          cases opened with
          | error => exact plain_failEarly
          | ok =>
              refine plain_attempt (offCanary_writeCompose request) h₃ fun w₄ written h₄ => ?_
              cases written with
              | error => exact (safe_offCompose (hundo name)).bind fun _ _ _ => plain_failEarly
              | ok => exact plain_deploy hplain h₄

lemma plain_applyDesiredSlot (hplain : isImageRollout request.actionName = false)
    (h : w₀.SameCanary w) : PlainApply fault w₀ w (applyDesiredSlot request) := by
  have hadmit := ( looks_admit request.preApplyAdmission).mono fun _ => Op.Looks.offCanary
  have hlocks : AllOps Op.OffCanary Check.locks.run := allOps_perform.mpr trivial
  have hlocked : PlainApply fault w₀ w (do
      Check.locks.run
      request.preApplyAdmission.admit
      applyDesiredSlotLocked request) := by
    refine plain_bind hlocks h fun w₁ _ h₁ => plain_bind hadmit h₁ fun w₂ _ h₂ => ?_
    exact plain_applyDesiredSlotLocked hplain h₂
  exact safe_tryCatch.mpr (hlocked.mono (fun _ _ h => h) fun _ _ _ => plain_failEarly)

end plain

/-! ## Coverage of the commands -/

/-- What is owed to a slot: a canary transaction is opened before the compose file is replaced, and
a command that returns 0 has added one receipt for its success. -/
def Covers (w₀ : SlotState) (desired : Desired) (opened : Bool) (w : SlotState) (op : Op) : Prop :=
  op.WritesCompose → (OpenedFirst w₀ desired w ↔ opened = true)

/-- The same of what a command returns. -/
def CoversEnd (w₀ : SlotState) (desired : Desired) (opened : Bool) (w : SlotState)
    (code : Nat) : Prop :=
  code = 0 → (OneCandidateReceipt w₀ desired w ↔ opened = true)

lemma not_openedFirst {desired : Desired} (h : w₀.SameCanary w) : ¬ OpenedFirst w₀ desired w := by
  rintro ⟨tx, htx, hnew, -⟩
  exact hnew (h.canary.symm.trans htx)

lemma not_oneCandidateReceipt {desired : Desired} (h : w₀.SameCanary w) :
    ¬ OneCandidateReceipt w₀ desired w := by
  rintro ⟨tx, r, -, -, hreceipts, -⟩
  rw [h.receipts] at hreceipts
  exact absurd (congrArg List.length hreceipts) (by simp)

/-- The commands on one slot open no canary transaction. -/
lemma covers_applySlot (invocation : Invocation) {request : ApplyRequest} (desired : Desired)
    (hplain : isImageRollout request.actionName = false) (w₀ : SlotState) :
    Safe ⟨Covers w₀ desired false, Outcome anyFault⟩ (CoversEnd w₀ desired false)
      (fun _ _ => True) w₀ (cmdRolloutImageApplySlot invocation request) := by
  have hrun : ∀ {op : Op}, op.OffCanary → AllOps Op.OffCanary op.run := allOps_perform.mpr
  have htarget : AllOps Op.OffCanary checkRolloutTarget :=
    allOps_bind (hrun trivial) fun _ => hrun trivial
  have hsame : Safe ⟨fun w op => op.WritesCompose → w₀.SameCanary w, Outcome anyFault⟩
      (fun w code => code = 0 → w₀.SameCanary w) (fun _ _ => True) w₀
      (cmdRolloutImageApplySlot invocation request) := by
    unfold cmdRolloutImageApplySlot
    split
    · exact nofun
    refine safe_bind.mpr ((safe_attempt.mpr ((safe_offCanary htarget (.refl w₀)).mono ?_ ?_)))
    · intro w _ h
      refine (plain_applyDesiredSlot hplain h).bind ?_
      exact fun _ _ h => h
    · intro w _ _
      have hlog : AllOps Op.OffCompose (quietly appendActionLog) :=
        allOps_tryCatch (offCompose_run id) fun _ => trivial
      exact (safe_offCompose hlog).bind fun _ _ _ => nofun
  refine Safe.mono (safe_mono_pre hsame ?_) ?_ fun _ _ _ => trivial
  · intro w op hcanary hop
    simpa using not_openedFirst (hcanary hop)
  · intro w code hcanary hcode
    simpa using not_oneCandidateReceipt (hcanary hcode)

/-- A promotion of a slot that has a manifest is covered. -/
lemma covers_promotion (desired : Desired) (hmanifest : w₀.hasManifest = true) :
    Safe ⟨Covers w₀ desired true, Outcome anyFault⟩
      (fun w r => CoversEnd w₀ desired true w r.code) (fun _ _ => True) w₀
      (applyDesiredSlot (promotion desired)) := by
  refine Safe.mono (safe_mono_pre (safe_promotion desired hmanifest) ?_) ?_ fun _ _ h => h
  · exact fun _ _ h hop => iff_of_true (h hop) rfl
  · exact fun _ _ h hcode => iff_of_true (h hcode) rfl

section fleet

variable {fleet : Fleet} {slot : List Char} {α : Type}

/-- Whenever the next step is on the slot, `I` holds there; the other slots do not matter. -/
def AtSlot (slot : List Char) (I : SlotState → Op → Prop) (w : Fleet) (op : List Char × Op) : Prop :=
  op.1 = slot → I (w slot) op.2

/-- What a program on the slot does, seen from the fleet. -/
lemma safe_onSlot {I : SlotState → Op → Prop} {p : Run α} {Q : SlotState → α → Prop}
    {E : SlotState → Raised → Prop}
    (h : Safe ⟨I, Outcome anyFault⟩ Q E (fleet slot) p) :
    Safe ⟨AtSlot slot I, (Outcome anyFault).keyed⟩ (fun w a => Q (w slot) a)
      (fun w e => E (w slot) e) fleet (onKey slot p) := by
  have hkeyed := safe_onKey fleet slot h
  rw [Function.update_eq_self] at hkeyed
  refine Safe.mono (safe_mono_pre hkeyed ?_) ?_ ?_
  · rintro _ op ⟨-, v, hv, rfl⟩ -
    simpa using hv
  · rintro _ a ⟨v, hv, rfl⟩
    simpa using hv
  · rintro _ e ⟨v, hv, rfl⟩
    simpa using hv

/-- A program on another slot leaves the slot alone. -/
lemma safe_onOtherSlot {I : SlotState → Op → Prop} {other : List Char} (hother : other ≠ slot)
    (p : Run α) :
    Safe ⟨AtSlot slot I, (Outcome anyFault).keyed⟩ (fun w _ => w slot = fleet slot)
      (fun w _ => w slot = fleet slot) fleet (onKey other p) := by
  have hany : Safe ⟨fun _ _ => True, Outcome anyFault⟩ (fun _ _ => True) (fun _ _ => True)
      (fleet other) p := safe_true _ p
  have hkeyed := safe_onKey fleet other hany
  rw [Function.update_eq_self] at hkeyed
  have hkeep : ∀ v, Function.update fleet other v slot = fleet slot := fun v =>
    Function.update_of_ne hother.symm v fleet
  refine Safe.mono (safe_mono_pre hkeyed ?_) ?_ ?_
  · rintro _ op ⟨hop, -⟩ hslot
    exact absurd (hop.symm.trans hslot) hother
  · rintro _ a ⟨v, -, rfl⟩
    exact hkeep v
  · rintro _ e ⟨v, -, rfl⟩
    exact hkeep v

/-- Steps on any slot that do not replace the compose file. -/
lemma safe_offComposeAnywhere {desired : Desired} {opened : Bool} {p : Run α}
    (hp : AllOps Op.OffCompose p) (other : List Char) :
    Safe ⟨AtSlot slot (Covers w₀ desired opened), (Outcome anyFault).keyed⟩ (fun _ _ => True)
      (fun _ _ => True) fleet (onKey other p) := by
  by_cases hother : other = slot
  · subst hother
    refine safe_onSlot (safe_mono_pre (safe_invariant hp (I := fun _ => True) ?_ trivial) ?_)
    · exact fun _ _ _ _ _ h _ => h
    · exact fun _ _ h hop => absurd hop h.2
  · exact (safe_onOtherSlot hother p).mono (fun _ _ _ => trivial) fun _ _ _ => trivial

/-- Targets other than the slot leave it alone. -/
lemma safe_promoteOthers {I : SlotState → Op → Prop} {targets : List Desired}
    (hothers : ∀ d ∈ targets, d.slot ≠ slot) :
    Safe ⟨AtSlot slot I, (Outcome anyFault).keyed⟩ (fun w _ => w slot = fleet slot)
      (fun w _ => w slot = fleet slot) fleet (promoteTargets targets) := by
  induction targets generalizing fleet with
  | nil => exact rfl
  | cons d rest ih =>
      have hd : d.slot ≠ slot := hothers d List.mem_cons_self
      have hrest : ∀ d ∈ rest, d.slot ≠ slot := fun d h => hothers d (List.mem_cons_of_mem _ h)
      refine (safe_onOtherSlot hd _).bind fun w report hw => ?_
      split
      · refine (ih hrest).mono ?_ ?_
        · exact fun _ _ h => h.trans hw
        · exact fun _ _ h => h.trans hw
      · refine safe_bind.mpr ((safe_onOtherSlot hd _).mono ?_ ?_)
        · exact fun _ _ h => h.trans hw
        · exact fun _ _ h => h.trans hw

/-- Each target of a promotion is covered. -/
lemma safe_promoteTargets {targets : List Desired} {desired : Desired}
    (hnodup : (targets.map Desired.slot).Nodup) (hdesired : desired ∈ targets)
    (hmanifest : (fleet desired.slot).hasManifest = true) :
    Safe ⟨AtSlot desired.slot (Covers (fleet desired.slot) desired true), (Outcome anyFault).keyed⟩
      (fun w code => CoversEnd (fleet desired.slot) desired true (w desired.slot) code)
      (fun _ _ => True) fleet (promoteTargets targets) := by
  induction targets generalizing fleet with
  | nil => cases hdesired
  | cons d rest ih =>
      obtain ⟨hfirst, hnodup⟩ := List.nodup_cons.mp hnodup
      -- after a target that failed, the log of the partial promotion
      have hlog : ∀ (w : Fleet) (code : Nat), code ≠ 0 →
          Safe ⟨AtSlot desired.slot (Covers (fleet desired.slot) desired true),
              (Outcome anyFault).keyed⟩
            (fun w code => CoversEnd (fleet desired.slot) desired true (w desired.slot) code)
            (fun _ _ => True) w
            (do
              onKey d.slot appendActionLog
              return code) := by
        intro w code hcode
        have happend : AllOps Op.OffCompose appendActionLog := offCompose_run id
        refine (safe_offComposeAnywhere happend d.slot).bind fun _ _ _ => ?_
        exact fun h => absurd h hcode
      rcases List.mem_cons.mp hdesired with rfl | hlater
      · -- this target first: the later ones leave it alone
        have hothers : ∀ d ∈ rest, d.slot ≠ desired.slot := by
          intro d hd hslot
          exact hfirst (hslot ▸ List.mem_map_of_mem hd)
        refine (safe_onSlot (covers_promotion desired hmanifest)).bind fun w report hw => ?_
        by_cases hcode : report.code = 0
        · rw [if_pos hcode]
          refine (safe_promoteOthers hothers).mono ?_ fun _ _ _ => trivial
          intro w' code hsame _
          rw [hsame]
          exact hw hcode
        · rw [if_neg hcode]
          exact hlog _ _ hcode
      · have hd : d.slot ≠ desired.slot := fun hslot =>
          hfirst (hslot ▸ List.mem_map_of_mem hlater)
        refine safe_bind.mpr ((safe_onOtherSlot hd _).mono ?_ fun _ _ _ => trivial)
        intro w report hw
        by_cases hcode : report.code = 0
        · rw [if_pos hcode, ← hw]
          exact ih hnodup hlater (hw ▸ hmanifest)
        · rw [if_neg hcode]
          exact hlog _ _ hcode

omit [Host] in
lemma looks_checkPromotionTarget : AllOps Op.Looks checkPromotionTarget := by
  have hrun : ∀ {op : Op}, op.Looks → AllOps Op.Looks op.run := allOps_perform.mpr
  refine allOps_bind (hrun trivial) fun _ => allOps_bind (hrun trivial) fun manifest => ?_
  refine allOps_bind (hrun trivial) fun stateManifest => ?_
  split
  · exact trivial
  refine allOps_bind (allOps_bind (hrun trivial) fun _ => trivial) fun pending => ?_
  cases pending with
  | some => exact trivial
  | none => exact allOps_bind (hrun trivial) fun _ => hrun trivial

/-- Programs that only look, on any slot. -/
lemma safe_looksAnywhere {desired : Desired} {opened : Bool} {p : Run α} (hp : AllOps Op.Looks p)
    (other : List Char) :
    Safe ⟨AtSlot slot (Covers w₀ desired opened), (Outcome anyFault).keyed⟩
      (fun w _ => w slot = fleet slot) (fun w _ => w slot = fleet slot) fleet (onKey other p) := by
  by_cases hother : other = slot
  · subst hother
    refine safe_onSlot (Q := fun w _ => w = fleet other) (E := fun w _ => w = fleet other) ?_
    exact safe_of_looks hp fun op hop hwrites => absurd hwrites.writesFile hop
  · exact safe_onOtherSlot hother p

lemma safe_checkPromotionTargets {desired : Desired} {opened : Bool} (targets : List Desired) :
    Safe ⟨AtSlot slot (Covers w₀ desired opened), (Outcome anyFault).keyed⟩
      (fun w _ => w slot = fleet slot) (fun _ _ => True) fleet (checkPromotionTargets targets) := by
  induction targets generalizing fleet with
  | nil => exact rfl
  | cons d rest ih =>
      refine safe_bind.mpr ((safe_looksAnywhere looks_checkPromotionTarget d.slot).mono ?_ ?_)
      · exact fun w _ hw => ih.mono (fun _ _ h => h.trans hw) fun _ _ h => h
      · exact fun _ _ _ => trivial

lemma safe_cmdRolloutImagePromote (invocation : Invocation) {fromSlot : List Char}
    {targets : List Desired} {desired : Desired} (hdesired : desired ∈ targets)
    (hmanifest : (fleet desired.slot).hasManifest = true) :
    Safe ⟨AtSlot desired.slot (Covers (fleet desired.slot) desired true), (Outcome anyFault).keyed⟩
      (fun w code => CoversEnd (fleet desired.slot) desired true (w desired.slot) code)
      (fun _ _ => True) fleet (cmdRolloutImagePromote invocation fromSlot targets) := by
  have hsource : AllOps Op.Looks Check.promotionSource.run := allOps_perform.mpr trivial
  have hfailed : ∀ w : Fleet,
      Safe ⟨AtSlot desired.slot (Covers (fleet desired.slot) desired true),
          (Outcome anyFault).keyed⟩
        (fun w code => CoversEnd (fleet desired.slot) desired true (w desired.slot) code)
        (fun _ _ => True) w
        (do
          onKey fromSlot (quietly appendActionLog)
          return 1) := by
    intro w
    have hlog : AllOps Op.OffCompose (quietly appendActionLog) :=
      allOps_tryCatch (offCompose_run id) fun _ => trivial
    exact (safe_offComposeAnywhere hlog fromSlot).bind fun _ _ _ => nofun
  unfold cmdRolloutImagePromote
  split
  · exact nofun
  rw [safe_tryCatch]
  refine safe_bind.mpr ((safe_looksAnywhere hsource fromSlot).mono ?_ fun w _ _ => hfailed w)
  intro w₁ _ h₁
  by_cases hpromotable : promotable fromSlot targets = true
  swap
  · rw [if_neg hpromotable]
    exact hfailed w₁
  have hnodup : (targets.map Desired.slot).Nodup := by
    unfold promotable at hpromotable
    simp only [Bool.and_eq_true, decide_eq_true_eq] at hpromotable
    exact hpromotable.1.2
  rw [if_pos hpromotable]
  refine safe_bind.mpr ((safe_checkPromotionTargets targets).mono ?_ fun w _ _ => hfailed w)
  intro w₂ _ h₂
  have hsame : w₂ desired.slot = fleet desired.slot := h₂.trans h₁
  rw [← hsame] at hmanifest ⊢
  refine (safe_promoteTargets hnodup hdesired hmanifest).mono (fun _ _ h => h) fun w _ _ => ?_
  rw [hsame]
  exact hfailed w

end fleet

/-- What a rollout command owes to each slot it deploys to. -/
lemma covers_rollout (invocation : Invocation) {command : RolloutCommand} {fleet : Fleet}
    {desired : Desired} (hdesired : desired ∈ command.targets)
    (hmanifest : (fleet desired.slot).hasManifest = true) :
    Safe ⟨AtSlot desired.slot (Covers (fleet desired.slot) desired command.isPromote),
        (Outcome anyFault).keyed⟩
      (fun w code => CoversEnd (fleet desired.slot) desired command.isPromote (w desired.slot) code)
      (fun _ _ => True) fleet (command.run invocation) := by
  cases command with
  | imageDevApply only allowFirstApply =>
      obtain rfl := List.mem_singleton.mp hdesired
      exact safe_onSlot (covers_applySlot invocation desired rfl _)
  | imageCanary only allowFirstApply =>
      obtain rfl := List.mem_singleton.mp hdesired
      exact safe_onSlot (covers_applySlot invocation desired rfl _)
  | imagePromote fromSlot targets =>
      exact safe_cmdRolloutImagePromote invocation hdesired hmanifest

/-- Among the rollout commands, over a slot that has a manifest: a canary transaction is open when
the compose file is replaced, and a receipt is there when the command returns 0, exactly if the
command is `image-promote`. -/
theorem rollout_covered_iff (invocation : Invocation) {command : RolloutCommand} {fleet : Fleet}
    {desired : Desired} (hdesired : desired ∈ command.targets)
    (hmanifest : (fleet desired.slot).hasManifest = true) :
    (∀ op w, op.WritesCompose →
      Interrupted (Outcome anyFault).keyed (command.run invocation) fleet (desired.slot, op) w →
      (OpenedFirst (fleet desired.slot) desired (w desired.slot) ↔ command.isPromote = true)) ∧
    ∀ w, Ends (Outcome anyFault).keyed (command.run invocation) fleet (.ok 0) w →
      (OneCandidateReceipt (fleet desired.slot) desired (w desired.slot) ↔
        command.isPromote = true) := by
  have hsafe := covers_rollout invocation hdesired hmanifest
  exact ⟨fun op w hop hrun => hrun.of_safe hsafe rfl hop, fun w hrun => hrun.of_safe hsafe rfl⟩

end rollouts

/-! ## Sample rollouts -/

section samples

attribute [local instance] sampleHost

/-- A fleet of deployed slots. -/
def deployedFleet : Fleet := fun _ => deployedSlot

/-- The outcome of an operation on a fleet in which nothing is broken. -/
def executeFleet (op : List Char × Op) (w : Fleet) : Except Raised op.2.Res × Fleet :=
  ((execute nothingBroken op.2 (w op.1)).1,
    Function.update w op.1 (execute nothingBroken op.2 (w op.1)).2)

lemma keyed_executeFleet (op : List Char × Op) (w : Fleet) :
    (Outcome anyFault).keyed w op (executeFleet op w).1 (executeFleet op w).2 :=
  ⟨_, outcome_execute (fun _ _ h => absurd h Bool.false_ne_true) op.2 (w op.1), rfl⟩

/-- An operator at the console. -/
def operator : Invocation := { isRoot := true, authorized := true }

/-- The rollout of the sample images as a canary. -/
def sampleCanary : RolloutCommand := .imageCanary promoteRequest.desired false

/-- Their promotion from another slot. -/
def samplePromote : RolloutCommand := .imagePromote "slot-b".toList [promoteRequest.desired]

/-- The fleet after a command in which nothing failed. -/
def rolledOut (command : RolloutCommand) : Fleet :=
  (eval executeFleet (command.run operator) deployedFleet).2

lemma ends_rolledOut {command : RolloutCommand}
    (h : (eval executeFleet (command.run operator) deployedFleet).1 = .ok 0) :
    Ends (Outcome anyFault).keyed (command.run operator) deployedFleet (.ok 0)
      (rolledOut command) := by
  have hrun := ends_eval keyed_executeFleet (command.run operator) deployedFleet
  rw [h] at hrun
  exact hrun

theorem promote_covered :
    OneCandidateReceipt (deployedFleet promoteRequest.desired.slot) promoteRequest.desired
      (rolledOut samplePromote promoteRequest.desired.slot) := by
  have hdesired : promoteRequest.desired ∈ samplePromote.targets := List.mem_singleton_self _
  have hmanifest : (deployedFleet promoteRequest.desired.slot).hasManifest = true := by
    decide
  have hcovered := rollout_covered_iff operator hdesired hmanifest
  exact (hcovered.2 _ (ends_rolledOut (by decide +kernel))).mpr rfl

/-- The step at which the canary rollout replaces the compose file, and the fleet it finds. -/
def canaryAtCompose : Option ((List Char × Op) × Fleet) :=
  nextAfter executeFleet 33 (sampleCanary.run operator) deployedFleet

/-- That step, on the canary's slot, with no canary transaction open. -/
def uncovered : Option ((List Char × Op) × Fleet) → Bool
  | some ((slot, .effect (.writeFile .compose _ _)), w) =>
      slot == promoteRequest.desired.slot && (w slot).canary.isNone
  | _ => false

theorem canary_not_covered :
    (deployedFleet promoteRequest.desired.slot).hasManifest = true ∧
      (∃ op w, op.WritesCompose ∧
        Interrupted (Outcome anyFault).keyed (sampleCanary.run operator) deployedFleet
          (promoteRequest.desired.slot, op) w ∧
        ¬ OpenedFirst (deployedFleet promoteRequest.desired.slot) promoteRequest.desired
          (w promoteRequest.desired.slot)) ∧
      Ends (Outcome anyFault).keyed (sampleCanary.run operator) deployedFleet (.ok 0)
        (rolledOut sampleCanary) ∧
      ¬ OneCandidateReceipt (deployedFleet promoteRequest.desired.slot) promoteRequest.desired
        (rolledOut sampleCanary promoteRequest.desired.slot) := by
  refine ⟨by decide +kernel, ?_, ends_rolledOut (by decide +kernel), ?_⟩
  · have hstep : uncovered canaryAtCompose = true := by decide +kernel
    have hnext : ∀ op w, canaryAtCompose = some (op, w) →
        Interrupted (Outcome anyFault).keyed (sampleCanary.run operator) deployedFleet op w :=
      fun op w h => interrupted_of_nextAfter keyed_executeFleet h
    generalize canaryAtCompose = next at hstep hnext
    unfold uncovered at hstep
    split at hstep
    · rename_i slot bytes mode w
      simp only [Bool.and_eq_true, beq_iff_eq, Option.isNone_iff_eq_none] at hstep
      obtain ⟨rfl, hnone⟩ := hstep
      refine ⟨.effect (.writeFile .compose bytes mode), w, trivial, hnext _ w rfl, ?_⟩
      rintro ⟨tx, htx, -⟩
      rw [hnone] at htx
      cases htx
    · cases hstep
  · rintro ⟨tx, r, -, -, hreceipts, -⟩
    have hlength := congrArg List.length hreceipts
    revert hlength
    simp only [List.length_cons]
    decide +kernel

end samples

end AgentRuntimeOps.Runtime
