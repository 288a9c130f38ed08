import AgentRuntimeOps.Runtime.Apply
import AgentRuntimeOps.Runtime.ApplySpecs

/-!
# Receipts of a marker-bound recovery

`cmd_rollback` with the four expectations prints one receipt.  The commands here are those of
`Runtime.Apply` again, with the flags `execution_entered` and `mutation_started` and the receipt of
every branch; what `_cmd_rollback_locked` prints goes into a hidden buffer and is left out.

`recovery_receipt_truthful` is what a receipt says, whatever fails.  A backup that was imported
without `had_env` says nothing about `.env`, and a restore to an empty baseline runs no live checks:
`complete_leaves_env` is such a receipt.
-/

namespace AgentRuntimeOps.Runtime

open AgentRuntimeOps.Lib Program

/-! ## Receipts -/

/-- `result`. -/
inductive RecoveryResult where
  | complete
  | failed
  | rejected
  deriving DecidableEq, Repr

/-- `transaction_state`. -/
inductive TransactionState where
  | pending
  | absent
  | committed
  | unavailable
  deriving DecidableEq, Repr

/-- `terminal_state`. -/
inductive TerminalState where
  | complete
  | incomplete
  | unknown
  deriving DecidableEq, Repr

/-- Why `_marker_expectations` refuses its arguments. -/
inductive ExpectationReason where
  /-- `exact_expectation_set_incomplete` -/
  | setIncomplete
  /-- `exact_target_invalid` -/
  | targetInvalid
  /-- `expected_transaction_id_invalid` -/
  | transactionIdInvalid
  /-- `expected_backup_name_invalid` -/
  | backupNameInvalid
  /-- `expected_marker_sha256_invalid` -/
  | markerDigestInvalid
  /-- `expected_backup_metadata_sha256_invalid` -/
  | backupMetadataInvalid
  deriving DecidableEq, Repr

/-- `reason_code`. -/
inductive ReasonCode where
  | expectation (reason : ExpectationReason)
  | rootRequired
  /-- `exact_target_not_observable` or `exact_target_not_canonical` -/
  | exactTarget
  | markerBound (reason : MarkerReason)
  | lockUnavailable
  | recoveryAdmissionFailed
  | recoveryExecutionException
  | recoveryExecutionFailedBeforeMutation
  | recoveryExecutionFailed
  | recoveryCommittedActionLogFailed
  | recoveryCommitted
  deriving DecidableEq, Repr

/-- A printed receipt; `none` stands for `unavailable`. -/
structure RecoveryReceipt where
  expected : Option ExpectedTransaction
  target : Option (List Char)
  result : RecoveryResult
  reasonCode : ReasonCode
  runtimeMutationStarted : Bool
  transactionState : TransactionState
  terminalState : TerminalState
  writes : Nat
  deriving DecidableEq, Repr

/-- `_EXACT_RECOVERY_TARGET_RE`: `[a-z_][a-z0-9_-]{0,31}`. -/
def isRecoveryTarget : List Char → Bool
  | [] => false
  | c :: cs =>
      (c.isLower || c == '_') && cs.length ≤ 31 &&
        cs.all fun c => c.isLower || c.isDigit || c == '_' || c == '-'

/-- `_emit_marker_recovery_receipt`. -/
def emitMarkerRecoveryReceipt (slot : List Char) (expected : Option ExpectedTransaction)
    (result : RecoveryResult) (reasonCode : ReasonCode) (runtimeMutationStarted : Bool)
    (post : TransactionState × TerminalState) : RecoveryReceipt where
  expected := expected
  target := if isRecoveryTarget slot then some slot else none
  result := result
  reasonCode := reasonCode
  runtimeMutationStarted := runtimeMutationStarted
  transactionState := post.1
  terminalState := post.2
  writes := if runtimeMutationStarted then 1 else 0

/-! ## The arguments -/

/-- The arguments of `rollback`.  An expectation that is given but has not the form of a transaction
id or of a backup name is `some none`. -/
structure RollbackArgs where
  slot : List Char
  expectedTransactionId : Option (Option Token)
  expectedBackupName : Option (Option BackupName)
  expectedBackupMetadataDigest : Option Digest
  expectedMarkerDigest : Option Digest
  isRoot : Bool

/-- `_marker_expectations`; without any expectation the answer is `none`. -/
def markerExpectations (args : RollbackArgs) :
    Except ExpectationReason (Option ExpectedTransaction) :=
  match args.expectedTransactionId, args.expectedBackupName, args.expectedBackupMetadataDigest,
      args.expectedMarkerDigest with
  | none, none, none, none => .ok none
  | some transactionId, some backupName, some metadataDigest, some markerDigest =>
      if !isRecoveryTarget args.slot then .error .targetInvalid
      else
        match transactionId, backupName with
        | none, _ => .error .transactionIdInvalid
        | some _, none => .error .backupNameInvalid
        | some transactionId, some backupName =>
            if !isDigest markerDigest then .error .markerDigestInvalid
            else if !isDigest metadataDigest then .error .backupMetadataInvalid
            else .ok (some {
              transactionId := transactionId
              backupName := backupName
              backupMetadataDigest := metadataDigest
              markerDigest := markerDigest })
  | _, _, _, _ => .error .setIncomplete

section recovery

variable [Host]

/-! ## The recovery -/

/-- `restore_backup` in exact mode, up to `on_mutation_started`. -/
def admitExactRestore (name : BackupName) (expected : ExpectedTransaction) : Run Backup := do
  Check.runtimeDir.run
  let backup ← (Op.readBackup name).run
  let _ ← validateEnvRestoreInputs backup
  Check.managedTargets.run
  let exact ← requireExactPendingRollback expected
  if exact ≠ name then
    throw (.markerBound .backupIdentityChangedBeforeRestore)
  return backup

/-- `restore_backup` in exact mode, from `on_mutation_started` on. -/
def restoreAdmitted (backup : Backup) : Run (Bool × RestoreReason) := do
  Check.stateManifestParent.run
  Check.managedTargets.run
  let stopped ← stopUnwantedContainers backup
  if !stopped then
    return (false, .emptyBaselineComposeDownFailed)
  restoreFiles backup
  if backup.metadata.hadCompose then redeployBaseline else verifyEmptyBaseline backup

/-- `restore_backup` in exact mode: `mutation_started`, and what it returned or raised. -/
def restoreBackupExact (name : BackupName) (expected : ExpectedTransaction) :
    Run (Bool × Except Raised (Bool × RestoreReason)) := do
  match ← attempt (admitExactRestore name expected) with
  | .error e => return (false, .error e)
  | .ok backup =>
      let restored ← attempt (restoreAdmitted backup)
      return (true, restored)

/-- The rest of `_cmd_rollback_locked`, once `restore_backup` has returned. -/
def concludeExact (name : BackupName) (expected : ExpectedTransaction) (ok : Bool)
    (reason : RestoreReason) : Run Nat := do
  if !ok then
    appendActionLog
    return 1
  if reason = .rollbackEmptyBaselineRestored then
    concludeRollback name (some expected)
  else
    match ← attempt (Op.readContract name).run with
    | .error _ =>
        appendActionLog
        return 1
    | .ok _ =>
      let passed : Bool ← Op.liveChecks.run
      if !passed then
        appendActionLog
        return 1
      concludeRollback name (some expected)

/-- `_cmd_rollback_locked` in exact mode: `mutation_started`, and what it returned or raised. -/
def rollbackExactLocked (name : BackupName) (expected : ExpectedTransaction) :
    Run (Bool × Except Raised Nat) := do
  let (started, restored) ← restoreBackupExact name expected
  match restored with
  | .error (.markerBound reason) => return (started, .error (.markerBound reason))
  | .error _ =>
      if started then
        quietly appendActionLog
      return (started, .ok 1)
  | .ok (ok, reason) =>
      let code ← attempt (concludeExact name expected ok reason)
      return (started, code)

/-- `_exact_recovery_post_state`. -/
def exactRecoveryPostState (expected : ExpectedTransaction) (finishObserved : Bool) :
    Run (TransactionState × TerminalState) := do
  match ← attempt pendingRollbackIdentity with
  | .error _ => return (.unavailable, .unknown)
  | .ok none => return if finishObserved then (.committed, .complete) else (.absent, .incomplete)
  | .ok (some observed) =>
      return if observed = expected then (.pending, .incomplete) else (.unavailable, .unknown)

/-- The `RuntimeError` of a lock that is taken: `another runtime …`. -/
def Raised.isLockTaken : Raised → Bool
  | .check detail => "another runtime ".toList.isPrefixOf detail.toList
  | _ => false

/-- The admission before `_cmd_rollback_locked` is entered. -/
def admitExactRecovery (expected : ExpectedTransaction) : Run BackupName := do
  let _ ← requireExactPendingRollback expected
  Check.locks.run
  requireExactPendingRollback expected

/-- The receipt of a run that `_cmd_rollback_locked` ended, by its outcome and by whether the locks
were released. -/
def exactReceipt (slot : List Char) (expected : ExpectedTransaction) (started : Bool)
    (outcome : Except Raised Nat) (released : Except Raised Unit)
    (post : TransactionState × TerminalState) : Nat × RecoveryReceipt :=
  let unfinished := if started then RecoveryResult.failed else .rejected
  match released, outcome with
  | .ok _, .error (.markerBound reason) =>
      (1, emitMarkerRecoveryReceipt slot (some expected) unfinished (.markerBound reason) started
        post)
  | .ok _, .ok code =>
      let succeeded := code == 0 && started && post.1 == .committed
      let logFailed := code == 3 && post.1 == .committed
      (if succeeded then 0 else 1,
        emitMarkerRecoveryReceipt slot (some expected)
          (if succeeded then .complete else unfinished)
          (if succeeded then .recoveryCommitted
            else if logFailed then .recoveryCommittedActionLogFailed
            else if started then .recoveryExecutionFailed
            else .recoveryExecutionFailedBeforeMutation)
          started (post.1, if succeeded then post.2 else .incomplete))
  | _, _ =>
      (1, emitMarkerRecoveryReceipt slot (some expected) unfinished
        (if started then .recoveryExecutionException else .recoveryExecutionFailedBeforeMutation)
        started post)

/-- `marker_finish_observed`. -/
def finishObserved : Except Raised Nat → Bool
  | .ok code => code == 0 || code == 3
  | .error _ => false

/-- `cmd_rollback` in exact mode, as root: the return code and the receipts it prints. -/
def recoverExact (slot : List Char) (expected : ExpectedTransaction) :
    Run (Nat × List RecoveryReceipt) := do
  let rejected (reason : ReasonCode) (state : TransactionState) : RecoveryReceipt :=
    emitMarkerRecoveryReceipt slot (some expected) .rejected reason false (state, .incomplete)
  match ← attempt Check.recoveryTarget.run with
  | .error _ => return (1, [rejected .exactTarget .unavailable])
  | .ok _ =>
    match ← attempt (admitExactRecovery expected) with
    | .error (.markerBound reason) =>
        let post ← exactRecoveryPostState expected false
        return (1, [rejected (.markerBound reason) post.1])
    | .error e =>
        return (1, [rejected (if e.isLockTaken then .lockUnavailable else .recoveryAdmissionFailed)
          .unavailable])
    | .ok name =>
        let (started, outcome) ← rollbackExactLocked name expected
        let post ← exactRecoveryPostState expected (finishObserved outcome)
        let released ← attempt Check.locks.run
        let (code, receipt) := exactReceipt slot expected started outcome released post
        return (code, [receipt])

/-- `cmd_rollback`: the return code and the receipts it prints. -/
def cmdRollbackReceipts (args : RollbackArgs) : Run (Nat × List RecoveryReceipt) := do
  match markerExpectations args with
  | .error reason =>
      return (2, [emitMarkerRecoveryReceipt args.slot none .rejected (.expectation reason) false
        (.unavailable, .incomplete)])
  | .ok none =>
      if args.isRoot then
        let code ← cmdRollbackPlain
        return (code, [])
      else
        return (2, [])
  | .ok (some expected) =>
      if args.isRoot then
        recoverExact args.slot expected
      else
        return (2, [emitMarkerRecoveryReceipt args.slot (some expected) .rejected .rootRequired
          false (.unavailable, .incomplete)])

/-! ## What the parts of a recovery do -/

omit [Host] in
lemma ExpectedTransaction.mismatch?_eq_none {expected observed : ExpectedTransaction} :
    expected.mismatch? observed = none ↔ observed = expected := by
  constructor
  · intro h
    unfold ExpectedTransaction.mismatch? at h
    split at h
    · cases h
    · split at h
      · cases h
      · split at h
        · cases h
        · split at h
          · cases h
          · rename_i hid hname hmetadata hmarker
            rw [not_not] at hid hname hmetadata hmarker
            obtain ⟨_, _, _, _⟩ := observed
            obtain ⟨_, _, _, _⟩ := expected
            cases hid
            cases hname
            cases hmetadata
            cases hmarker
            rfl
  · rintro rfl
    exact ExpectedTransaction.mismatch?_self observed

section parts

variable {fault : Faults} {w : SlotState} {name : BackupName} {expected : ExpectedTransaction}
  {b : Backup}

lemma SlotState.marker_of_loadMarker_some {m : Marker} (h : w.loadMarker = .ok (some m)) :
    w.marker = some m := by
  unfold SlotState.loadMarker at h
  split at h
  · cases h
  · rename_i found hfound
    split at h
    · cases h
    · split at h
      · cases h
        exact hfound
      · cases h

/-- The pending marker is the expected one. -/
def Expects (w : SlotState) (expected : ExpectedTransaction) : Prop :=
  ∃ m, w.marker = some m ∧ m.identity = expected

lemma spec_requireExact :
    Spec fault w (requireExactPendingRollback expected)
      (fun w' found => w' = w ∧ Expects w expected ∧ found = expected.backupName)
      (fun w' _ => w' = w) := by
  unfold requireExactPendingRollback pendingRollbackIdentity
  refine safe_bind.mpr (safe_tryCatch.mpr (safe_bind.mpr (safe_readMarker.mpr
    ⟨trivial, ?_, fun _ _ => rfl, fun _ _ => rfl⟩)))
  rintro (_ | m) hload
  · exact rfl
  · rw [Option.map_some]
    refine safe_pure.mpr ?_
    dsimp only
    cases hmismatch : expected.mismatch? m.identity with
    | some reason => exact rfl
    | none =>
        have hidentity := ExpectedTransaction.mismatch?_eq_none.mp hmismatch
        refine safe_bind.mpr (safe_readBackup.mpr ⟨trivial, fun _ _ => ?_, fun _ _ => rfl,
          fun _ _ => rfl⟩)
        refine ⟨rfl, ⟨m, SlotState.marker_of_loadMarker_some hload, hidentity⟩, ?_⟩
        rw [hidentity]

/-- A backup whose flags and artifacts agree can be restored once its `.env` inputs are read. -/
lemma Backup.restorable_of_intact (hintact : b.intact = true)
    (hidentity : b.metadata.hadEnv = some true → b.metadata.envIdentity.isSome) :
    b.Restorable where
  identity := hidentity
  artifact file hhad := by
    have hat : b.intactAt file = true := by
      unfold Backup.intact at hintact
      rw [Bool.and_eq_true, Bool.and_eq_true, Bool.and_eq_true] at hintact
      cases file with
      | compose => exact hintact.1.2
      | manifest => exact hintact.1.1.1
      | stateManifest => exact hintact.2
      | env => exact hintact.1.1.2
    unfold Backup.intactAt at hat
    rw [hhad] at hat
    cases hartifact : b.artifact file with
    | some f => rfl
    | none => simp [hartifact] at hat

/-- Reading the inputs of `.env` succeeds only where they are there. -/
lemma spec_envInputs :
    Spec fault w (validateEnvRestoreInputs b)
      (fun w' _ => w' = w ∧ (b.metadata.hadEnv = some true → b.metadata.envIdentity.isSome))
      (fun w' _ => w' = w) := by
  unfold validateEnvRestoreInputs
  refine safe_bind.mpr (safe_check.mpr ⟨trivial, ?_, fun _ _ => rfl⟩)
  rcases henv : b.metadata.hadEnv with _ | _ | _
  · exact ⟨rfl, nofun⟩
  · exact ⟨rfl, nofun⟩
  · dsimp only
    split
    · exact rfl
    · split
      · rename_i mode uid gid hmode huid hgid
        refine ⟨rfl, fun _ => ?_⟩
        unfold Metadata.envIdentity
        rw [hmode, huid, hgid]
        rfl
      · exact rfl

/-- Up to `on_mutation_started` nothing is changed. -/
lemma spec_admitExactRestore :
    Spec fault w (admitExactRestore name expected)
      (fun w' found => w' = w ∧ w.loadBackup name = .ok found ∧ found.Restorable)
      (fun w' _ => w' = w) := by
  unfold admitExactRestore
  refine safe_bind.mpr (safe_check.mpr ⟨trivial, ?_, fun _ _ => rfl⟩)
  refine safe_bind.mpr (safe_readBackup.mpr ⟨trivial, fun b hb => ?_, fun _ _ => rfl,
    fun _ _ => rfl⟩)
  refine spec_envInputs.bind ?_
  rintro _ _ ⟨rfl, hidentity⟩
  refine safe_bind.mpr (safe_check.mpr ⟨trivial, ?_, fun _ _ => rfl⟩)
  refine spec_requireExact.bind ?_
  rintro _ found ⟨rfl, -, -⟩
  split
  · exact rfl
  · have hintact : b.intact = true := by
      unfold SlotState.loadBackup at hb
      split at hb
      · cases hb
      · split at hb
        · cases hb
          assumption
        · cases hb
    exact ⟨rfl, hb, Backup.restorable_of_intact hintact hidentity⟩

/-- What a restore that returned has done. -/
structure RestoredBy (b : Backup) (w w' : SlotState) (result : Bool × RestoreReason) : Prop where
  backups : w'.backups = w.backups
  files : result.1 = true → w'.files = b.restored w.files
  reason : result.1 = true → b.metadata.hadCompose = true →
    result.2 ≠ .rollbackEmptyBaselineRestored

lemma spec_restoreAdmitted (hb : b.Restorable) :
    Spec fault w (restoreAdmitted b) (RestoredBy b w) (fun _ _ => True) := by
  unfold restoreAdmitted
  refine safe_bind.mpr (safe_check.mpr ⟨trivial, ?_, fun _ _ => trivial⟩)
  refine safe_bind.mpr (safe_check.mpr ⟨trivial, ?_, fun _ _ => trivial⟩)
  refine (spec_stopUnwantedContainers.mono (fun _ _ h => h) fun _ _ _ => trivial).bind ?_
  rintro _ stopped ⟨⟨c₁, rfl⟩, -⟩
  cases stopped with
  | false => exact ⟨rfl, nofun, nofun⟩
  | true =>
      refine ((spec_restoreFiles _ hb).mono (fun _ _ h => h) fun _ _ _ => trivial).bind ?_
      rintro _ - ⟨temp, rfl⟩
      split
      · refine spec_redeployBaseline.mono ?_ fun _ _ _ => trivial
        rintro _ result ⟨⟨c₂, rfl⟩, hdeployed⟩
        exact ⟨rfl, fun _ => rfl, fun hok _ => (hdeployed hok).2⟩
      · rename_i hcompose
        refine spec_verifyEmptyBaseline.mono ?_ fun _ _ _ => trivial
        rintro _ result ⟨rfl, -⟩
        exact ⟨rfl, fun _ => rfl, fun _ htrue => absurd htrue hcompose⟩

/-- The files and the backups stay. -/
def SlotState.SameFiles (w w' : SlotState) : Prop := w'.files = w.files ∧ w'.backups = w.backups

lemma spec_concludeRollback :
    Spec fault w (concludeRollback name (some expected)) (fun w' _ => w.SameFiles w')
      (fun w' _ => w.SameFiles w') := by
  have hlog : ∀ {w₁ : SlotState} {code : Nat}, w.SameFiles w₁ →
      Spec fault w₁ (do
        appendActionLog
        return code) (fun w' _ => w.SameFiles w') (fun w' _ => w.SameFiles w') :=
    fun h => safe_bind.mpr (safe_check.mpr ⟨trivial, h, fun _ _ => h⟩)
  have hfinish : Spec fault w (finishRollback name (some expected)) (fun w' _ => w.SameFiles w')
      (fun w' _ => w.SameFiles w') := by
    show Spec fault w (finishExactRollbackTransaction name expected) _ _
    unfold finishExactRollbackTransaction
    refine safe_bind.mpr (spec_requireExact.mono ?_ ?_)
    · rintro _ found ⟨rfl, -, -⟩
      split
      · exact ⟨rfl, rfl⟩
      · exact safe_effect.mpr ⟨trivial, ⟨rfl, rfl⟩, fun _ _ => ⟨rfl, rfl⟩, fun _ _ => ⟨rfl, rfl⟩⟩
    · rintro _ _ rfl
      exact ⟨rfl, rfl⟩
  unfold concludeRollback
  refine safe_bind.mpr (safe_attempt.mpr (hfinish.mono ?_ ?_))
  · intro w₁ _ h₁
    refine safe_bind.mpr (safe_attempt.mpr (safe_check.mpr ⟨trivial, h₁, fun _ e => ?_⟩))
    exact h₁
  · intro w₁ _ h₁
    exact hlog h₁

end parts

/-! ## Recoveries whose live checks are watched -/

/-- The live checks were run and all passed. -/
def livePassed : (op : Op) → Except Raised op.Res → Bool
  | .liveChecks, .ok true => true
  | _, _ => false

/-- The slot, and whether live checks have passed. -/
abbrev Watched (fault : Faults) : Answers Op Op.Res Raised (SlotState × Bool) :=
  (Outcome fault).flagged livePassed

/-- A specification that speaks of the live checks. -/
abbrev WatchedSpec {α : Type} (fault : Faults) (w : SlotState × Bool) (p : Run α)
    (Q : SlotState × Bool → α → Prop) (E : SlotState × Bool → Raised → Prop) : Prop :=
  Safe ⟨fun _ _ => True, Watched fault⟩ Q E w p

section watched

variable {fault : Faults} {w : SlotState} {checked : Bool} {name : BackupName}
  {expected : ExpectedTransaction} {b : Backup}

lemma watched_of_spec {α : Type} {p : Run α} {Q : SlotState → α → Prop}
    {E : SlotState → Raised → Prop} (h : Spec fault w p Q E) :
    WatchedSpec fault (w, checked) p (fun w a => Q w.1 a) (fun w e => E w.1 e) :=
  (safe_flagged h).mono (fun _ _ h => h.1) fun _ _ h => h.1

/-- What is done after live checks have passed does not undo that. -/
lemma watched_keeps {α : Type} {p : Run α} {Q : SlotState → α → Prop}
    {E : SlotState → Raised → Prop} (h : Spec fault w p Q E) :
    WatchedSpec fault (w, checked) p (fun w a => Q w.1 a ∧ (checked = true → w.2 = true))
      (fun w e => E w.1 e) :=
  (safe_flagged h).mono (fun _ _ h => h) fun _ _ h => h.1

/-- A recovery that returns 0 found the live checks passed, unless the baseline is empty. -/
lemma watched_concludeExact (ok : Bool) (reason : RestoreReason) :
    WatchedSpec fault (w, checked) (concludeExact name expected ok reason)
      (fun w' code => w.SameFiles w'.1 ∧ (code = 0 → ok = true ∧
        (reason ≠ .rollbackEmptyBaselineRestored → w'.2 = true)))
      (fun _ _ => True) := by
  have hlog : ∀ {checked : Bool}, WatchedSpec fault (w, checked) (do
      appendActionLog
      return 1)
      (fun w' code => w.SameFiles w'.1 ∧ (code = 0 → ok = true ∧
        (reason ≠ .rollbackEmptyBaselineRestored → w'.2 = true)))
      (fun _ _ => True) := by
    intro checked
    have hstep : Spec fault w (do
        appendActionLog
        return 1) (fun w' code => w.SameFiles w' ∧ code = 1) (fun _ _ => True) :=
      safe_bind.mpr (safe_check.mpr ⟨trivial, ⟨⟨rfl, rfl⟩, rfl⟩, fun _ _ => trivial⟩)
    refine (watched_of_spec hstep).mono ?_ fun _ _ h => h
    rintro w' _ ⟨hsame, rfl⟩
    exact ⟨hsame, nofun⟩
  unfold concludeExact
  cases ok with
  | false => exact hlog
  | true =>
      by_cases hreason : reason = .rollbackEmptyBaselineRestored
      · rw [if_pos hreason]
        refine (watched_of_spec spec_concludeRollback).mono ?_ fun _ _ _ => trivial
        exact fun w' code hsame => ⟨hsame, fun _ => ⟨rfl, fun hne => absurd hreason hne⟩⟩
      · rw [if_neg hreason]
        have hread : Spec fault w (attempt (Op.readContract name).run) (fun w' _ => w' = w)
            (fun _ _ => True) :=
          safe_attempt.mpr (safe_readContract.mpr ⟨trivial, fun _ _ => rfl, fun _ _ => rfl,
            fun _ _ => rfl⟩)
        refine (watched_of_spec hread).bind ?_
        rintro ⟨_, checked'⟩ found hsame
        obtain rfl : _ = w := hsame
        cases found with
        | error e => exact hlog
        | ok contract =>
            refine safe_bind.mpr (safe_perform.mpr ⟨trivial, ?_, fun _ _ _ => trivial⟩)
            rintro passed ⟨w₁, checked₁⟩ ⟨hanswer, hflag⟩
            obtain rfl : w₁ = _ := hanswer.2
            cases passed with
            | false => exact hlog
            | true =>
                obtain rfl : checked₁ = true := by
                  rw [show checked₁ = (_ || _) from hflag]
                  simp [livePassed]
                refine (safe_flagged spec_concludeRollback).mono ?_ fun _ _ _ => trivial
                exact fun w' code h => ⟨h.1, fun _ => ⟨rfl, fun _ => h.2 rfl⟩⟩

/-- Before `on_mutation_started` nothing is changed; after it a backup of that name is restored. -/
lemma spec_restoreBackupExact :
    Spec fault w (restoreBackupExact name expected)
      (fun w' r => (r.1 = false → w' = w ∧ ∃ e, r.2 = .error e) ∧
        (r.1 = true → ∃ b, w.loadBackup name = .ok b ∧
          ∀ result, r.2 = .ok result → RestoredBy b w w' result))
      (fun _ _ => False) := by
  unfold restoreBackupExact
  refine safe_bind.mpr (safe_attempt.mpr (spec_admitExactRestore.mono ?_ ?_))
  · rintro _ b ⟨rfl, hb, hrestorable⟩
    refine safe_bind.mpr (safe_attempt.mpr ((spec_restoreAdmitted hrestorable).mono ?_ ?_))
    · intro w' result hrestored
      refine ⟨nofun, fun _ => ⟨b, hb, ?_⟩⟩
      rintro _ ⟨⟩
      exact hrestored
    · exact fun w' e _ => ⟨nofun, fun _ => ⟨b, hb, nofun⟩⟩
  · rintro _ e rfl
    exact ⟨fun _ => ⟨rfl, e, rfl⟩, nofun⟩

/-- The files are as the backup says, and the live checks passed unless its baseline is empty. -/
def Recovered (w : SlotState) (name : BackupName) (w' : SlotState × Bool) : Prop :=
  ∃ b, w.loadBackup name = .ok b ∧ w'.1.files = b.restored w.files ∧ w'.1.backups = w.backups ∧
    (b.metadata.hadCompose = true → w'.2 = true)

lemma watched_attempt {α : Type} {p : Run α} {v : SlotState × Bool}
    {Q : SlotState × Bool → Except Raised α → Prop} {E : SlotState × Bool → Raised → Prop} :
    WatchedSpec fault v (attempt p) Q E ↔
      WatchedSpec fault v p (fun w a => Q w (.ok a)) (fun w e => Q w (.error e)) := by
  refine safe_tryCatch.trans ?_
  rw [safe_bind]
  rfl

lemma watched_rollbackExactLocked :
    WatchedSpec fault (w, checked) (rollbackExactLocked name expected)
      (fun w' r => (r.1 = false → w'.1 = w) ∧ (r.1 = true → r.2 = .ok 0 → Recovered w name w'))
      (fun _ _ => False) := by
  unfold rollbackExactLocked
  refine (watched_of_spec spec_restoreBackupExact).bind ?_
  rintro ⟨w₁, checked₁⟩ ⟨started, restored⟩ ⟨hbefore, hafter⟩
  have hend : ∀ {outcome : Except Raised Nat}, outcome ≠ .ok 0 →
      (started = false → w₁ = w) ∧
        (started = true → outcome = .ok 0 → Recovered w name (w₁, checked₁)) :=
    fun hne => ⟨fun hs => (hbefore hs).1, fun _ h0 => absurd h0 hne⟩
  cases restored with
  | error e =>
      have hfail : WatchedSpec fault (w₁, checked₁) (do
          if started then
            quietly appendActionLog
          return (started, Except.ok 1) : Run (Bool × Except Raised Nat))
          (fun w' r => (r.1 = false → w'.1 = w) ∧
            (r.1 = true → r.2 = .ok 0 → Recovered w name w')) (fun _ _ => False) := by
        cases started with
        | false => exact hend nofun
        | true =>
            have hlog : Spec fault w₁ (quietly appendActionLog) (fun _ _ => True)
                (fun _ _ => False) :=
              safe_tryCatch.mpr (safe_check.mpr ⟨trivial, trivial, fun _ _ => trivial⟩)
            refine (watched_of_spec hlog).bind fun w₂ _ _ => ?_
            exact ⟨nofun, fun _ h0 => by cases h0⟩
      cases e with
      | markerBound reason => exact hend nofun
      | _ => exact hfail
  | ok result =>
      obtain ⟨ok, reason⟩ := result
      obtain rfl : started = true := by
        cases started with
        | true => rfl
        | false =>
            obtain ⟨-, e, he⟩ := hbefore rfl
            cases he
      obtain ⟨b, hb, hrestored⟩ := hafter rfl
      have hby := hrestored _ rfl
      refine safe_bind.mpr (watched_attempt.mpr ((watched_concludeExact ok reason).mono ?_ ?_))
      · rintro ⟨w₂, checked₂⟩ code ⟨hsame, hzero⟩
        refine ⟨nofun, fun _ h0 => ⟨b, hb, ?_, ?_, fun hcompose => ?_⟩⟩
        · obtain ⟨hok, -⟩ := hzero (by cases h0; rfl)
          exact hsame.1.trans (hby.files hok)
        · exact hsame.2.trans hby.backups
        · obtain ⟨hok, hchecked⟩ := hzero (by cases h0; rfl)
          exact hchecked (hby.reason hok hcompose)
      · exact fun w₂ e _ => ⟨nofun, fun _ h0 => by cases h0⟩

/-- The post-state is looked at, not changed; it is `committed` only where no marker is left. -/
lemma spec_exactRecoveryPostState (observed : Bool) :
    Spec fault w (exactRecoveryPostState expected observed)
      (fun w' post => w' = w ∧ (post.1 = .committed → w.marker = none)) (fun _ _ => False) := by
  unfold exactRecoveryPostState
  refine safe_bind.mpr (safe_attempt.mpr (safe_bind.mpr (safe_readMarker.mpr
    ⟨trivial, ?_, fun _ _ => ⟨rfl, nofun⟩, fun _ _ => ⟨rfl, nofun⟩⟩)))
  rintro (_ | m) hload
  · exact ⟨rfl, fun _ => SlotState.marker_of_loadMarker hload⟩
  · refine ⟨rfl, ?_⟩
    show (if m.identity = expected then _ else _ : TransactionState × TerminalState).1 = _ → _
    split
    · exact nofun
    · exact nofun

omit [Host] in
lemma exactReceipt_writes {slot : List Char} {started : Bool} {outcome : Except Raised Nat}
    {released : Except Raised Unit} {post : TransactionState × TerminalState}
    (h : (exactReceipt slot expected started outcome released post).2.writes = 0) :
    started = false := by
  have hwrites : (exactReceipt slot expected started outcome released post).2.writes =
      if started then 1 else 0 := by
    unfold exactReceipt
    dsimp only
    split <;> rfl
  rw [hwrites] at h
  cases started with
  | false => rfl
  | true => cases h

omit [Host] in
lemma exactReceipt_complete {slot : List Char} {started : Bool} {outcome : Except Raised Nat}
    {released : Except Raised Unit} {post : TransactionState × TerminalState}
    (h : (exactReceipt slot expected started outcome released post).2.result = .complete) :
    outcome = .ok 0 ∧ started = true ∧ post.1 = .committed := by
  have hunfinished : (if started then RecoveryResult.failed else .rejected) ≠ .complete := by
    cases started with
    | false => exact nofun
    | true => exact nofun
  unfold exactReceipt at h
  dsimp only at h
  split at h
  · exact absurd h hunfinished
  · rename_i code
    by_cases hsucceeded : (code == 0 && started && post.1 == .committed) = true
    · rw [Bool.and_eq_true, Bool.and_eq_true, beq_iff_eq, beq_iff_eq] at hsucceeded
      exact ⟨by rw [hsucceeded.1.1], hsucceeded.1.2, hsucceeded.2⟩
    · simp only [if_neg hsucceeded] at h
      exact absurd h hunfinished
  · exact absurd h hunfinished

/-- What a receipt says of a recovery from `w` that ended in `w'`: without writes nothing has
changed; `complete` means that the expected marker was pending and is gone, and that the files are
those of its backup; and a slot without the expected marker is left as it was. -/
structure TruthfulReceipt (expected : ExpectedTransaction) (w : SlotState) (w' : SlotState × Bool)
    (receipt : RecoveryReceipt) : Prop where
  unwritten : receipt.writes = 0 → w'.1 = w
  complete : receipt.result = .complete →
    Expects w expected ∧ Recovered w expected.backupName w' ∧ w'.1.marker = none
  unexpected : ¬ Expects w expected → w'.1 = w

/-- A receipt of a slot that is as it was. -/
lemma truthful_of_unchanged {receipt : RecoveryReceipt} {w' : SlotState × Bool}
    (hw : w'.1 = w) (hresult : receipt.result ≠ .complete) :
    TruthfulReceipt expected w w' receipt :=
  ⟨fun _ => hw, fun h => absurd h hresult, fun _ => hw⟩

lemma watched_recoverExact (slot : List Char) :
    WatchedSpec fault (w, checked) (recoverExact slot expected)
      (fun w' r => ∃ receipt, r.2 = [receipt] ∧ TruthfulReceipt expected w w' receipt)
      (fun _ _ => False) := by
  have htarget : Spec fault w (attempt Check.recoveryTarget.run) (fun w' _ => w' = w)
      (fun _ _ => False) :=
    safe_attempt.mpr (safe_check.mpr ⟨trivial, rfl, fun _ _ => rfl⟩)
  have hadmit : Spec fault w (attempt (admitExactRecovery expected))
      (fun w' r => w' = w ∧ ∀ name, r = .ok name →
        Expects w expected ∧ name = expected.backupName) (fun _ _ => False) := by
    refine safe_attempt.mpr ?_
    unfold admitExactRecovery
    refine safe_bind.mpr (spec_requireExact.mono ?_ fun _ _ h => ⟨h, nofun⟩)
    rintro _ _ ⟨rfl, -, -⟩
    refine safe_bind.mpr (safe_check.mpr ⟨trivial, ?_, fun _ _ => ⟨rfl, nofun⟩⟩)
    refine spec_requireExact.mono ?_ fun _ _ h => ⟨h, nofun⟩
    rintro _ name ⟨rfl, hexpects, hname⟩
    refine ⟨rfl, ?_⟩
    rintro _ ⟨⟩
    exact ⟨hexpects, hname⟩
  unfold recoverExact
  refine (watched_of_spec htarget).bind ?_
  rintro ⟨_, checked₁⟩ target hsame
  obtain rfl : _ = w := hsame
  cases target with
  | error e => exact ⟨_, rfl, truthful_of_unchanged rfl nofun⟩
  | ok _ =>
      refine (watched_of_spec hadmit).bind ?_
      rintro ⟨w₂, checked₂⟩ admitted ⟨hsame₂, hname⟩
      obtain rfl : w₂ = _ := hsame₂
      cases admitted with
      | error e =>
          have hrejected : ∀ {receipt : RecoveryReceipt}, receipt.result ≠ .complete →
              WatchedSpec fault (w₂, checked₂)
                (return (1, [receipt]) : Run (Nat × List RecoveryReceipt))
                (fun w' r => ∃ receipt, r.2 = [receipt] ∧
                  TruthfulReceipt expected w₂ w' receipt) (fun _ _ => False) :=
            fun hresult => ⟨_, rfl, truthful_of_unchanged rfl hresult⟩
          cases e with
          | markerBound reason =>
              refine (watched_of_spec (spec_exactRecoveryPostState false)).bind ?_
              rintro ⟨w₃, checked₃⟩ post ⟨hsame₃, -⟩
              exact ⟨_, rfl, truthful_of_unchanged hsame₃ nofun⟩
          | _ => exact hrejected nofun
      | ok name =>
          obtain ⟨hexpects, rfl⟩ := hname name rfl
          refine watched_rollbackExactLocked.bind ?_
          rintro ⟨w₃, checked₃⟩ ⟨started, outcome⟩ ⟨hbefore, hafter⟩
          refine (watched_keeps (spec_exactRecoveryPostState (finishObserved outcome))).bind ?_
          rintro ⟨w₄, checked₄⟩ post ⟨⟨hsame₄, hmarker⟩, hkeeps₄⟩
          obtain rfl : w₄ = w₃ := hsame₄
          have hrelease : Spec fault w₄ (attempt Check.locks.run) (fun w' _ => w' = w₄)
              (fun _ _ => False) :=
            safe_attempt.mpr (safe_check.mpr ⟨trivial, rfl, fun _ _ => rfl⟩)
          refine (watched_keeps hrelease).bind ?_
          rintro ⟨w₅, checked₅⟩ released ⟨hsame₅, hkeeps₅⟩
          obtain rfl : w₅ = w₄ := hsame₅
          refine ⟨(exactReceipt slot expected started outcome released post).2, rfl, ?_, ?_, ?_⟩
          · exact fun hwrites => hbefore (exactReceipt_writes hwrites)
          · intro hcomplete
            obtain ⟨houtcome, hstarted, hcommitted⟩ := exactReceipt_complete hcomplete
            obtain ⟨b, hb, hfiles, hbackups, hchecked⟩ := hafter hstarted houtcome
            refine ⟨hexpects, ⟨b, hb, hfiles, hbackups, fun hcompose => ?_⟩, hmarker hcommitted⟩
            exact hkeeps₅ (hkeeps₄ (hchecked hcompose))
          · exact fun hnot => absurd hexpects hnot

/-- One receipt is printed: of a slot that is as it was, or of a recovery. -/
lemma watched_cmdRollbackReceipts {args : RollbackArgs}
    (hexact : markerExpectations args ≠ .ok none) :
    WatchedSpec fault (w, checked) (cmdRollbackReceipts args)
      (fun w' r => ∃ receipt, r.2 = [receipt] ∧
        ((w'.1 = w ∧ receipt.result ≠ .complete) ∨
          ∃ expected, markerExpectations args = .ok (some expected) ∧
            TruthfulReceipt expected w w' receipt)) (fun _ _ => False) := by
  unfold cmdRollbackReceipts
  cases hargs : markerExpectations args with
  | error reason => exact ⟨_, rfl, .inl ⟨rfl, nofun⟩⟩
  | ok expectations =>
      cases expectations with
      | none => exact absurd hargs hexact
      | some expected =>
          by_cases hroot : args.isRoot = true
          · simp only [if_pos hroot]
            refine (watched_recoverExact args.slot).mono ?_ fun _ _ h => h
            rintro w' r ⟨receipt, hr, htruthful⟩
            exact ⟨receipt, hr, .inr ⟨expected, rfl, htruthful⟩⟩
          · simp only [if_neg hroot]
            exact ⟨_, rfl, .inl ⟨rfl, nofun⟩⟩

end watched

/-- Whatever fails, `cmd_rollback` with expectations prints exactly one receipt.  Without writes
nothing has changed.  `complete` says that the expected marker was pending and is removed, that the
files are what a restore of its backup leaves, and that the live checks passed unless the backup has
no compose file.  Where the pending marker is not the expected one, nothing has changed. -/
theorem recovery_receipt_truthful (args : RollbackArgs)
    (hexact : markerExpectations args ≠ .ok none) {w : SlotState}
    {x : Except Raised (Nat × List RecoveryReceipt)} {w' : SlotState × Bool}
    (hends : Ends (Watched anyFault) (cmdRollbackReceipts args) (w, false) x w') :
    ∃ code receipt, x = .ok (code, [receipt]) ∧ (receipt.writes = 0 → w'.1 = w) ∧
      (receipt.result = .complete → ∃ expected m b,
        markerExpectations args = .ok (some expected) ∧ w.marker = some m ∧
          m.identity = expected ∧ w.loadBackup m.backupName = .ok b ∧
          w'.1.files = b.restored w.files ∧ (b.metadata.hadCompose = true → w'.2 = true) ∧
          w'.1.marker = none ∧ w'.1.backups = w.backups) ∧
      ∀ expected, markerExpectations args = .ok (some expected) →
        (∀ m, w.marker = some m → m.identity ≠ expected) → w'.1 = w := by
  have hspec := @watched_cmdRollbackReceipts _ anyFault w false args hexact
  cases x with
  | error e => exact absurd (hends.of_safe_error hspec) id
  | ok r =>
      obtain ⟨code, receipts⟩ := r
      obtain ⟨receipt, rfl, hreceipt⟩ := hends.of_safe hspec
      refine ⟨code, receipt, rfl, ?_⟩
      rcases hreceipt with ⟨hsame, hresult⟩ | ⟨expected, hargs, htruthful⟩
      · exact ⟨fun _ => hsame, fun h => absurd h hresult, fun _ _ _ => hsame⟩
      · refine ⟨htruthful.unwritten, fun hcomplete => ?_, fun other hother hnot => ?_⟩
        · obtain ⟨⟨m, hm, hidentity⟩, ⟨b, hb, hfiles, hbackups, hchecked⟩, hmarker⟩ :=
            htruthful.complete hcomplete
          refine ⟨expected, m, b, hargs, hm, hidentity, ?_, hfiles, hchecked, hmarker, hbackups⟩
          rw [← hidentity] at hb
          exact hb
        · obtain rfl : other = expected := by
            rw [hargs] at hother
            cases hother
            rfl
          exact htruthful.unexpected fun ⟨m, hm, hidentity⟩ => hnot m hm hidentity

end recovery

/-! ## A sample recovery -/

section samples

attribute [local instance] sampleHost

/-- The metadata of a backup that was imported from a time before `.env` was backed up, of a slot
with a compose file or without any file. -/
def importedMetadata (hadCompose : Bool) : Metadata where
  createdAt := 0
  hadCompose := hadCompose
  hadManifest := false
  hadStateManifest := false
  hadEnv := none
  envMode := none
  envUid := none
  envGid := none
  artifactDigest
    | .compose => if hadCompose then some (Host.sha256 []) else none
    | _ => none

/-- That backup. -/
def importedBackup (hadCompose : Bool) : Backup where
  metadata := importedMetadata hadCompose
  artifact
    | .compose =>
        if hadCompose then some { bytes := [], mode := 0o600, uid := 0, gid := 0 } else none
    | _ => none

/-- The marker of its rollback. -/
def importedMarker (hadCompose : Bool) : Marker where
  backupName := sampleBackupName
  backupMetadataDigest := Host.metadataDigest (importedMetadata hadCompose)
  transactionId := 0

/-- A slot with that rollback pending, and a `.env` from after the backup. -/
def importedSlot (hadCompose : Bool) : SlotState where
  files
    | .env => some { bytes := [75, 61, 49, 10], mode := 0o640, uid := 1000, gid := 1000 }
    | _ => none
  backups := [(sampleBackupName, importedBackup hadCompose)]
  stagings := 0
  marker := some (importedMarker hadCompose)
  canary := none
  receipts := []
  temp := none
  containers := none
  tokens := 1

/-- The arguments of its recovery. -/
def importedArgs (hadCompose : Bool) : RollbackArgs where
  slot := "sample".toList
  expectedTransactionId := some (some 0)
  expectedBackupName := some (some sampleBackupName)
  expectedBackupMetadataDigest := some (Host.metadataDigest (importedMetadata hadCompose))
  expectedMarkerDigest := some (Host.markerDigest (importedMarker hadCompose))
  isRoot := true

/-- What a slot answers when nothing is broken, and whether live checks have passed. -/
def executeWatched (op : Op) (w : SlotState × Bool) :
    Except Raised op.Res × (SlotState × Bool) :=
  let r := execute nothingBroken op w.1
  (r.1, r.2, w.2 || livePassed op r.1)

/-- The recovery of that slot when nothing is broken. -/
def importedRecovery (hadCompose : Bool) :
    Except Raised (Nat × List RecoveryReceipt) × (SlotState × Bool) :=
  eval executeWatched (cmdRollbackReceipts (importedArgs hadCompose))
    (importedSlot hadCompose, false)

/-- The results of the receipts that it prints. -/
def importedResults (hadCompose : Bool) : Option (List RecoveryResult) :=
  (importedRecovery hadCompose).1.toOption.map fun r => r.2.map RecoveryReceipt.result

lemma ends_importedRecovery (hadCompose : Bool) :
    Ends (Watched anyFault) (cmdRollbackReceipts (importedArgs hadCompose))
      (importedSlot hadCompose, false) (importedRecovery hadCompose).1
      (importedRecovery hadCompose).2 :=
  ends_eval (fun op w => ⟨outcome_execute (fun _ _ h => absurd h Bool.false_ne_true) op w.1, rfl⟩)
    _ _

/-- The receipt of the recovery to a compose file is `complete`, the marker is gone and the live
checks passed. -/
theorem imported_receipt_truthful :
    ∃ x w', Ends (Watched anyFault) (cmdRollbackReceipts (importedArgs true))
        (importedSlot true, false) x w' ∧
      ∃ code receipt, x = .ok (code, [receipt]) ∧ receipt.result = .complete ∧
        w'.1.marker = none ∧ w'.2 = true := by
  have hexact : markerExpectations (importedArgs true) ≠ .ok none := by decide
  have hresult : importedResults true = some [.complete] := by decide +kernel
  obtain ⟨code, receipt, hx, -, hcomplete, -⟩ :=
    recovery_receipt_truthful (importedArgs true) hexact (ends_importedRecovery true)
  have hreceipt : receipt.result = .complete := by
    rw [importedResults, hx] at hresult
    simpa [Except.toOption] using hresult
  obtain ⟨expected, m, b, -, hm, -, hb, -, hchecked, hmarker, -⟩ := hcomplete hreceipt
  have hload : (importedSlot true).loadBackup m.backupName = .ok (importedBackup true) := by
    have hsome : (importedSlot true).marker = some (importedMarker true) := rfl
    rw [hsome] at hm
    cases hm
    have hintact : (importedBackup true).intact = true := by decide +kernel
    show (if (importedBackup true).intact then _ else _) = _
    rw [if_pos hintact]
  rw [hload] at hb
  cases hb
  exact ⟨_, _, ends_importedRecovery true, code, receipt, hx, hreceipt, hmarker, hchecked rfl⟩

/-- Two `complete` receipts: `.env` is left where the backup has none, and no live checks are run
for a baseline without a compose file. -/
theorem complete_leaves_env :
    (∃ w', Ends (Watched anyFault) (cmdRollbackReceipts (importedArgs true))
        (importedSlot true, false) (importedRecovery true).1 w' ∧
      importedResults true = some [.complete] ∧
      (importedSlot true).backup? sampleBackupName = some (importedBackup true) ∧
      (importedBackup true).artifact .env = none ∧ w'.1.files .env ≠ none) ∧
    ∃ w', Ends (Watched anyFault) (cmdRollbackReceipts (importedArgs false))
        (importedSlot false, false) (importedRecovery false).1 w' ∧
      importedResults false = some [.complete] ∧ w'.2 = false := by
  refine ⟨⟨(importedRecovery true).2, ends_importedRecovery true, by decide +kernel, rfl, rfl,
    by decide +kernel⟩, (importedRecovery false).2, ends_importedRecovery false, by decide +kernel,
    by decide⟩

end samples

end AgentRuntimeOps.Runtime
