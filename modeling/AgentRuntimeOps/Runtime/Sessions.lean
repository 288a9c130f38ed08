import AgentRuntimeOps.Runtime.ApplySpecs

/-!
# Sequences of applies and rollbacks

A session is a sequence of `apply_desired_slot` and `cmd_rollback` runs on one slot, each of which
ends or is cut off by a crash.  Two properties of whole sessions: the canary transaction and the
rollback marker stay in step, and canary receipts tell the truth once.  Neither holds of every
session; each is proved of the sessions whose steps keep clear of the place where it is lost.
-/

namespace AgentRuntimeOps.Runtime

open AgentRuntimeOps.Lib Program

section sessions

variable [Host]

/-! ## The operator's rollback and the canary transaction -/

/-- The operations that do not touch a canary transaction or a receipt. -/
def Op.OffCanary : Op → Prop
  | .effect (.writeCanary _) | .effect (.writeReceipt _) | .effect .unlinkCanary => False
  | _ => True

/-- The operations of the operator's rollback: they write no new text to a managed file either. -/
def Op.Restores (op : Op) : Prop := op.OffCanary ∧ ¬ op.WritesFile

/-- The canary transaction and the receipts are as they were. -/
structure SlotState.SameCanary (w w' : SlotState) : Prop where
  canary : w'.canary = w.canary
  receipts : w'.receipts = w.receipts
  tokens : w.tokens ≤ w'.tokens

variable {fault : Faults} {w w' : SlotState}

omit [Host] in
lemma SlotState.SameCanary.refl (w : SlotState) : w.SameCanary w := ⟨rfl, rfl, le_rfl⟩

omit [Host] in
lemma SlotState.SameCanary.trans {w'' : SlotState} (h : w.SameCanary w') (h' : w'.SameCanary w'') :
    w.SameCanary w'' :=
  ⟨h'.canary.trans h.canary, h'.receipts.trans h.receipts, h.tokens.trans h'.tokens⟩

omit [Host] in
lemma Op.Quiet.restores {op : Op} (h : op.Quiet) : op.Restores := by
  refine ⟨?_, h.not_writesFile⟩
  cases op with
  | effect e =>
      cases e with
      | writeCanary | writeReceipt | unlinkCanary => exact h.elim
      | _ => exact trivial
  | _ => exact trivial

omit [Host] in
lemma Effect.sameCanary {e : Effect} (he : (Op.effect e).OffCanary) (w : SlotState) :
    w.SameCanary (e.apply w) := by
  cases e with
  | writeCanary | writeReceipt | unlinkCanary => exact he.elim
  | _ => exact ⟨rfl, rfl, le_rfl⟩

lemma Op.OffCanary.sameCanary {op : Op} (hop : op.OffCanary) {r : Except Raised op.Res}
    (h : Outcome fault w op r w') : w.SameCanary w' := by
  by_cases hquiet : op.Quiet
  · have hsame := hquiet.sameTransactions h
    exact ⟨hsame.canary, hsame.receipts, hsame.tokens⟩
  cases op with
  | effect e =>
      rcases h with ⟨-, rfl⟩ | ⟨-, ⟨-, rfl⟩ | ⟨-, rfl⟩⟩
      · exact Effect.sameCanary hop w
      · exact .refl w'
      · exact Effect.sameCanary hop w
  | importLegacyBackups =>
      obtain ⟨-, imported, rfl⟩ := h
      exact ⟨rfl, rfl, le_rfl⟩
  | _ => exact absurd trivial hquiet

section restores

omit [Host] in
lemma restores_run {op : Op} (h : op.Restores) : AllOps Op.Restores op.run :=
  allOps_perform.mpr h

omit [Host] in
lemma restores_of_quiet {α : Type} {p : Run α} (h : AllOps Op.Quiet p) : AllOps Op.Restores p :=
  h.mono fun _ => Op.Quiet.restores

omit [Host] in
lemma restores_attempt {α : Type} {p : Run α} (h : AllOps Op.Restores p) :
    AllOps Op.Restores (attempt p) :=
  allOps_tryCatch (allOps_bind h fun _ => trivial) fun _ => trivial

omit [Host] in
lemma restores_quietly {p : Run Unit} (h : AllOps Op.Restores p) :
    AllOps Op.Restores (quietly p) := allOps_tryCatch h fun _ => trivial

lemma restores_beginRollbackTransaction (name : BackupName) :
    AllOps Op.Restores (beginRollbackTransaction name) := by
  refine allOps_bind (restores_run ⟨trivial, id⟩) fun b => ?_
  refine allOps_bind (restores_of_quiet quiet_pendingRollbackBackup) fun pending => ?_
  cases pending with
  | none => exact allOps_bind (restores_run ⟨trivial, id⟩) fun _ => restores_run ⟨trivial, id⟩
  | some existing =>
      dsimp only
      split
      · exact trivial
      · exact trivial

lemma restores_admitRestore (name : BackupName) (expected : Option ExpectedTransaction) :
    AllOps Op.Restores (admitRestore name expected) := by
  cases expected with
  | none => exact restores_beginRollbackTransaction name
  | some expected =>
      refine allOps_bind (restores_of_quiet (quiet_requireExactPendingRollback expected)) ?_
      intro exact
      split
      · exact trivial
      · exact allOps_bind (restores_run ⟨trivial, id⟩) fun _ => restores_run ⟨trivial, id⟩

lemma restores_restoreBackup (name : BackupName) (expected : Option ExpectedTransaction) :
    AllOps Op.Restores (restoreBackup name expected) := by
  refine allOps_bind (restores_run ⟨trivial, id⟩) fun b => ?_
  refine allOps_bind (restores_of_quiet (quiet_validateEnvRestoreInputs b)) fun _ => ?_
  refine allOps_bind ?_ fun _ => allOps_bind (restores_run ⟨trivial, id⟩) fun _ => ?_
  · unfold ensureStateManifestParent
    split
    · exact restores_run ⟨trivial, id⟩
    · exact trivial
  refine allOps_bind (restores_admitRestore name expected) fun _ => ?_
  refine allOps_bind (restores_of_quiet (quiet_stopUnwantedContainers b)) fun stopped => ?_
  split
  · exact trivial
  refine allOps_bind (restores_of_quiet (quiet_restoreFiles b)) fun _ => ?_
  split
  · exact restores_of_quiet quiet_redeployBaseline
  · exact restores_of_quiet (quiet_verifyEmptyBaseline b)

omit [Host] in
lemma restores_finishRollbackTransaction (name : BackupName) :
    AllOps Op.Restores (finishRollbackTransaction name) := by
  refine allOps_bind (restores_of_quiet quiet_pendingRollbackBackup) fun pending => ?_
  split
  · exact trivial
  · exact restores_run ⟨trivial, id⟩

lemma restores_finishRollback (name : BackupName) (expected : Option ExpectedTransaction) :
    AllOps Op.Restores (finishRollback name expected) := by
  cases expected with
  | none => exact restores_finishRollbackTransaction name
  | some expected =>
      refine allOps_bind (restores_of_quiet (quiet_requireExactPendingRollback expected)) ?_
      intro observed
      split
      · exact trivial
      · exact restores_run ⟨trivial, id⟩

omit [Host] in
lemma restores_appendActionLog : AllOps Op.Restores appendActionLog := restores_run ⟨trivial, id⟩

lemma restores_concludeRollback (name : BackupName) (expected : Option ExpectedTransaction) :
    AllOps Op.Restores (concludeRollback name expected) := by
  refine allOps_bind (restores_attempt (restores_finishRollback name expected)) fun finished => ?_
  cases finished with
  | error e => exact allOps_bind restores_appendActionLog fun _ => trivial
  | ok =>
      refine allOps_bind (restores_attempt restores_appendActionLog) fun logged => ?_
      cases logged with
      | ok => exact trivial
      | error e =>
          dsimp only
          split
          · exact trivial
          · exact trivial

omit [Host] in
lemma restores_selectBackup (selected : Option BackupName) :
    AllOps Op.Restores (selectBackup selected) := by
  have hlatest : AllOps Op.Restores latestBackup :=
    allOps_bind (restores_run ⟨trivial, id⟩) fun _ => trivial
  cases selected with
  | some name => exact trivial
  | none =>
      refine allOps_bind (restores_of_quiet quiet_pendingRollbackBackup) fun pending => ?_
      cases pending with
      | some name => exact trivial
      | none =>
          refine allOps_bind hlatest fun latest => ?_
          cases latest with
          | some name => exact trivial
          | none =>
              refine allOps_bind (restores_run ⟨trivial, id⟩) fun _ => allOps_bind hlatest fun latest => ?_
              cases latest with
              | some name => exact trivial
              | none => exact trivial

lemma restores_cmdRollbackLocked (selected : Option BackupName)
    (expected : Option ExpectedTransaction) :
    AllOps Op.Restores (cmdRollbackLocked selected expected) := by
  have hfail : AllOps Op.Restores (do appendActionLog; return 1 : Run Nat) :=
    allOps_bind restores_appendActionLog fun _ => trivial
  unfold cmdRollbackLocked
  refine allOps_bind (restores_attempt ?_) fun restored => ?_
  · refine allOps_bind (restores_selectBackup selected) fun name => ?_
    exact allOps_bind (restores_restoreBackup name expected) fun _ => trivial
  split
  · exact trivial
  · exact allOps_bind (restores_quietly restores_appendActionLog) fun _ => trivial
  · split
    · exact hfail
    split
    · exact restores_concludeRollback _ _
    refine allOps_bind (restores_attempt (restores_run ⟨trivial, id⟩)) fun contract => ?_
    cases contract with
    | error e => exact hfail
    | ok =>
        refine allOps_bind (restores_run ⟨trivial, id⟩) fun passed => ?_
        split
        · exact hfail
        · exact restores_concludeRollback _ _

/-- The operator's rollback does not look at the canary transaction. -/
lemma restores_cmdRollback (expected : Option ExpectedTransaction) :
    AllOps Op.Restores (cmdRollback expected) := by
  cases expected with
  | none =>
      refine allOps_tryCatch ?_ fun _ => ?_
      · exact allOps_bind (restores_run ⟨trivial, id⟩) fun _ => restores_cmdRollbackLocked none none
      · exact allOps_bind (restores_quietly restores_appendActionLog) fun _ => trivial
  | some expected =>
      have hexact := restores_of_quiet (quiet_requireExactPendingRollback expected)
      refine allOps_tryCatch ?_ fun _ => trivial
      refine allOps_bind (restores_run ⟨trivial, id⟩) fun _ => allOps_bind hexact fun _ => ?_
      refine allOps_bind (restores_run ⟨trivial, id⟩) fun _ => allOps_bind hexact fun name => ?_
      refine allOps_bind (restores_cmdRollbackLocked (some name) (some expected)) fun code => ?_
      refine allOps_bind (restores_attempt (restores_of_quiet quiet_pendingRollbackIdentity)) ?_
      intro observed
      split
      · exact trivial
      · exact trivial

end restores

lemma safe_cmdRollback (expected : Option ExpectedTransaction) (w : SlotState) :
    Safe ⟨fun v _ => w.SameCanary v, Outcome fault⟩ (fun v _ => w.SameCanary v)
      (fun v _ => w.SameCanary v) w (cmdRollback expected) :=
  safe_mono_pre
    (safe_invariant (restores_cmdRollback expected)
      (fun _ _ _ _ hop hv hr => hv.trans (hop.1.sameCanary hr)) (.refl w))
    fun _ _ h => h.1

/-! ## Sessions -/

/-- The commands of a session. -/
inductive Command where
  | apply (request : ApplyRequest)
  | rollback (expected : Option ExpectedTransaction)

/-- A run of the command ends in the second state, or is cut off there. -/
def Command.Stops (fault : Faults) (allowed : SlotState → Op → Prop) :
    Command → SlotState → SlotState → Prop
  | .apply request => Program.Stops (Outcome fault) allowed (applyDesiredSlot request)
  | .rollback expected => Program.Stops (Outcome fault) allowed (cmdRollback expected)

/-- A sequence of runs: each is started in a state that `admitted` admits, has the faults of that
state, and may be cut off where `allowed` admits it. -/
def Session (fault : SlotState → Faults) (allowed : SlotState → Op → Prop)
    (admitted : SlotState → Command → Prop) : SlotState → SlotState → Prop :=
  Relation.ReflTransGen fun w w' =>
    ∃ command : Command, admitted w command ∧ command.Stops (fault w) allowed w w'

/-- Any sequence of runs, with any faults and any crashes. -/
def AnySession : SlotState → SlotState → Prop :=
  Session (fun _ => anyFault) (fun _ _ => True) fun _ _ => True

/-! ## In step -/

/-- The faults outside the steps that remove the marker and then the canary transaction. -/
def carefulFault : Faults := fun w op done => ¬ FinishingFault w op done

/-- A rollback is not started while a canary transaction is open. -/
def RollsBackClosed (w : SlotState) : Command → Prop
  | .apply _ => True
  | .rollback _ => w.canary = none

/-- The sessions in which no step fails, and no crash happens, from the removal of a rollback marker
to that of the canary transaction, and no rollback command runs while one is open. -/
def CarefulSession : SlotState → SlotState → Prop :=
  Session (fun _ => carefulFault) (fun w op => ¬ Finishing w op) RollsBackClosed

omit [Host] in
lemma careful_carefulFault : Careful carefulFault := fun _ _ _ hfin hfault => hfault hfin

/-- One run keeps the transactions in step. -/
lemma InStep.stops {command : Command} (h : InStep w) (hclosed : RollsBackClosed w command)
    (hstops : command.Stops carefulFault (fun w op => ¬ Finishing w op) w w') : InStep w' := by
  cases command with
  | apply request =>
      have hstart : Starts carefulFault w request := ⟨fun hnone => .inl (h hnone), fun _ => h⟩
      have hrun : Program.Stops (Outcome carefulFault) (fun w op => ¬ Finishing w op)
        (applyDesiredSlot request) w w' := hstops
      refine hrun.of_safe (Safe.mono (safe_mono_pre (safe_applyDesiredSlot hstart) ?_) ?_ ?_)
      · exact fun _ _ hcrash hnot => hcrash.inStep careful_carefulFault hnot
      · exact fun _ _ hreported => hreported.left.inStep careful_carefulFault
      · exact fun _ _ hfalse => hfalse.elim
  | rollback expected =>
      have hrun : Program.Stops (Outcome carefulFault) (fun w op => ¬ Finishing w op)
        (cmdRollback expected) w w' := hstops
      have hsame : w.SameCanary w' :=
        hrun.of_safe (safe_mono_pre (safe_cmdRollback expected w) fun _ _ h _ => h)
      exact fun _ => hsame.canary.trans hclosed

lemma InStep.session (h : InStep w) (hsession : CarefulSession w w') : InStep w' := by
  induction hsession with
  | refl => exact h
  | tail _ hstep ih =>
      obtain ⟨command, hclosed, hstops⟩ := hstep
      exact ih.stops hclosed hstops

/-- A rollout that has taken its backup and begun its rollback transaction is refused because a
canary transaction already exists. -/
def Refused (w : SlotState) : Prop :=
  ∃ name w₁ w₂ w₃ slot family candidate prestate digest,
    Ends (Outcome anyFault) backupAgentRuntimeState w (.ok name) w₁ ∧
    Ends (Outcome anyFault) (beginRollbackTransaction name) w₁ (.ok ()) w₂ ∧
    Ends (Outcome anyFault) (Canary.begin slot family candidate prestate name digest) w₂
      (.error .canaryExists) w₃

/-- `begin` is refused only because of an open transaction. -/
lemma begin_canaryExists {slot family : List Char} {candidate prestate : ImagePair}
    {name : BackupName} {digest : Digest} (hclosed : w.canary = none) :
    Spec fault w (Canary.begin slot family candidate prestate name digest) (fun _ _ => True)
      (fun _ e => e ≠ .canaryExists) := by
  refine safe_checked_begin nofun nofun nofun fun _ _ _ => ?_
  refine safe_bind.mpr (safe_readCanary.mpr ⟨trivial, ?_, fun _ _ => nofun⟩)
  rw [hclosed]
  refine safe_bind.mpr (safe_clock.mpr ⟨trivial, fun createdAt => ?_⟩)
  refine safe_bind.mpr (safe_token.mpr ⟨trivial, ?_⟩)
  exact safe_effect.mpr ⟨trivial, trivial, fun _ _ => nofun, fun _ _ => nofun⟩

lemma InStep.not_refused (h : InStep w) : ¬ Refused w := by
  rintro ⟨name, w₁, w₂, w₃, slot, family, candidate, prestate, digest, hbackup, hbegin, hrefused⟩
  obtain ⟨b, -, hmarker, rfl⟩ := hbackup.of_safe (spec_backupAgentRuntimeState w)
  have hnear := hbegin.of_safe (near_beginRollbackTransaction (.refl _ name))
  have hclosed : w₂.canary = none := hnear.canary.trans (h hmarker)
  exact hrefused.of_safe_error (begin_canaryExists hclosed) rfl

/-- In every careful session that starts with no transaction open, no canary transaction is open
whenever no rollback is pending, and no rollout is refused because of one. -/
theorem canary_in_step {w w' : SlotState} (hcanary : w.canary = none)
    (hsession : CarefulSession w w') : InStep w' ∧ ¬ Refused w' := by
  have hstart : InStep w := fun _ => hcanary
  exact ⟨hstart.session hsession, (hstart.session hsession).not_refused⟩

/-! ## Receipts -/

/-- The faults outside the steps after a candidate receipt. -/
def truthfulFault (start : Nat) : Faults := fun w op done => ¬ LateFault start w op done

/-- An apply that does not open a canary transaction itself is not started over an open one. -/
def AppliesClosed (w : SlotState) : Command → Prop
  | .apply request => w.marker = none → w.canary = none ∨ OpensCanary w request
  | .rollback _ => True

/-- The sessions in which nothing fails once a run has written its candidate receipt, and no apply
finishes a canary transaction that another run left open.  A run may be cut off anywhere. -/
def TruthfulSession : SlotState → SlotState → Prop :=
  Session (fun w => truthfulFault w.tokens) (fun _ _ => True) AppliesClosed

/-- At most one receipt content was ever written for each transaction. -/
def OneContent (w : SlotState) : Prop :=
  ∀ r ∈ w.receipts, ∀ r' ∈ w.receipts, r.transactionId = r'.transactionId → r = r'

/-- The receipts of a run that began in `w` tell what is deployed in `w'`. -/
def ReceiptsTrue (w : SlotState) (request : ApplyRequest) (w' : SlotState) : Prop :=
  ∀ r ∈ w'.receipts, w.tokens ≤ r.transactionId →
    match r.outcome with
    | .candidateSucceeded => CandidateDeployed request w'
    | .rollbackSucceeded => PrestateDeployed w w'

/-- The receipts' transactions were drawn, and each has one content. -/
structure WellKept (w : SlotState) : Prop where
  drawn : ∀ r ∈ w.receipts, r.transactionId < w.tokens
  one : OneContent w

omit [Host] in
lemma truthful_truthfulFault (start : Nat) : Truthful start (truthfulFault start) :=
  fun _ _ _ hlate hfault => hfault hlate

omit [Host] in
lemma WellKept.addsOneReceipt (h : WellKept w) (hadds : AddsOneReceipt w w') : WellKept w' := by
  obtain ⟨htokens, own, hown, hlen, hall⟩ := hadds
  have hfresh : ∀ r ∈ own, ∀ r' ∈ w.receipts, r.transactionId ≠ r'.transactionId := by
    intro r hr r' hr'
    have hlt : r'.transactionId < r.transactionId := (h.drawn r' hr').trans_le (hall r hr).1
    exact hlt.ne'
  refine ⟨fun r hr => ?_, fun r hr r' hr' hid => ?_⟩
  · rw [hown] at hr
    rcases List.mem_append.mp hr with hr | hr
    · exact (hall r hr).2
    · exact (h.drawn r hr).trans_le htokens
  · rw [hown] at hr hr'
    rcases List.mem_append.mp hr with hr | hr <;> rcases List.mem_append.mp hr' with hr' | hr'
    · match own, hlen, hr, hr' with
      | [x], _, hr, hr' => rw [List.mem_singleton.mp hr, List.mem_singleton.mp hr']
    · exact absurd hid (hfresh r hr r' hr')
    · exact absurd hid.symm (hfresh r' hr' r hr)
    · exact h.one r hr r' hr' hid

omit [Host] in
lemma WellKept.sameCanary (h : WellKept w) (hsame : w.SameCanary w') : WellKept w' :=
  h.addsOneReceipt (.of_eq hsame.tokens hsame.receipts)

omit [Host] in
lemma starts_truthful {request : ApplyRequest} (h : AppliesClosed w (.apply request)) :
    Starts (truthfulFault w.tokens) w request := by
  refine ⟨h, fun hcareful => ?_⟩
  -- these faults include that of a finishing step, so nothing is promised about being in step
  exact absurd id (hcareful { w with marker := none } .readCanary false (.inl ⟨rfl, trivial⟩))

/-- One run keeps the receipts. -/
lemma WellKept.stops {command : Command} (h : WellKept w) (hclosed : AppliesClosed w command)
    (hstops : command.Stops (truthfulFault w.tokens) (fun _ _ => True) w w') : WellKept w' := by
  have ht := truthful_truthfulFault w.tokens
  cases command with
  | apply request =>
      have hrun : Program.Stops (Outcome (truthfulFault w.tokens)) (fun _ _ => True)
        (applyDesiredSlot request) w w' := hstops
      refine h.addsOneReceipt (hrun.of_safe (Safe.mono
        (safe_mono_pre (safe_applyDesiredSlot (starts_truthful hclosed)) ?_) ?_ ?_))
      · exact fun _ _ hcrash _ => hcrash.receipts ht
      · exact fun _ _ hreported => hreported.left.receipts ht
      · exact fun _ _ hfalse => hfalse.elim
  | rollback expected =>
      have hrun : Program.Stops (Outcome (truthfulFault w.tokens)) (fun _ _ => True)
        (cmdRollback expected) w w' := hstops
      exact h.sameCanary (hrun.of_safe
        (safe_mono_pre (safe_cmdRollback expected w) fun _ _ h _ => h))

lemma WellKept.session (h : WellKept w) (hsession : TruthfulSession w w') : WellKept w' := by
  induction hsession with
  | refl => exact h
  | tail _ hstep ih =>
      obtain ⟨command, hclosed, hstops⟩ := hstep
      exact ih.stops hclosed hstops

/-- The report of a run that succeeded or was verifiably rolled back. -/
def ApplyReport.Verified (report : ApplyReport) : Prop :=
  report.code = 0 ∨ report.rollback = some true

/-- What a verified run left is what its receipts tell. -/
lemma Reported.receiptsTrue {start : Nat} {request : ApplyRequest} {report : ApplyReport}
    (h : Reported (truthfulFault start) w request w' report) (hstart : start = w.tokens)
    (hkept : WellKept w) (hverified : report.Verified) : ReceiptsTrue w request w' := by
  intro r hr hfresh
  have hnew : r ∉ w.receipts := fun hold => absurd (hkept.drawn r hold) hfresh.not_gt
  rcases hverified with hcode | hrollback
  · obtain ⟨-, hcommitted⟩ := h.committed hcode
    obtain ⟨name, b, -, ⟨-, tx, -, -, hreceipts⟩ | ⟨-, hreceipts⟩⟩ := hcommitted.receipts
    · rw [hreceipts] at hr
      rcases List.mem_cons.mp hr with rfl | hold
      · exact hcommitted.candidate
      · exact absurd hold hnew
    · rw [hreceipts] at hr
      exact absurd hr hnew
  · have hleft := h.rolledBack true hrollback
    have ht : Truthful w.tokens (truthfulFault start) := hstart ▸ truthful_truthfulFault start
    obtain ⟨own, hown, hall⟩ := hleft.receipts rfl ht
    rw [hown] at hr
    rcases List.mem_append.mp hr with hr | hold
    · rw [hall r hr]
      exact hleft.prestate rfl
    · exact absurd hold hnew

/-- In every truthful session of a slot without receipts, each transaction has one receipt content
at most; and when an apply succeeds or is verifiably rolled back, its receipt tells which images
are deployed. -/
theorem receipts_tell_the_truth_once {w w' : SlotState} (hnew : w.receipts = [])
    (hsession : TruthfulSession w w') :
    OneContent w' ∧ ∀ request report w'', AppliesClosed w' (.apply request) →
      Ends (Outcome (truthfulFault w'.tokens)) (applyDesiredSlot request) w' (.ok report) w'' →
      report.Verified → ReceiptsTrue w' request w'' := by
  have hstart : WellKept w := by
    refine ⟨?_, ?_⟩
    · rw [hnew]
      exact nofun
    · unfold OneContent
      rw [hnew]
      exact nofun
  have hkept := hstart.session hsession
  refine ⟨hkept.one, fun request report w'' hclosed hends hverified => ?_⟩
  exact (hends.of_safe (safe_applyDesiredSlot (starts_truthful hclosed))).receiptsTrue rfl hkept
    hverified

end sessions

/-! ## A sample session -/

section samples

attribute [local instance] sampleHost

/-- A slot with a deployed baseline. -/
def deployedSlot : SlotState :=
  { envSlot 0o640 with
    files := fun
      | .compose => some { bytes := [1], mode := 0o644, uid := 0, gid := 0 }
      | .manifest => some { bytes := [2], mode := 0o644, uid := 0, gid := 0 }
      | .stateManifest => some { bytes := [3], mode := 0o644, uid := 0, gid := 0 }
      | .env => some { bytes := [], mode := 0o640, uid := 1000, gid := 1000 }
    containers := some [1] }

/-- The promotion of another image pair to that slot. -/
def promoteRequest : ApplyRequest where
  desired :=
    { slot := "slot-a".toList
      family := "hermes".toList
      productImage := some ("product@sha256:".toList ++ List.replicate 64 '4')
      wrapperImage := some ("wrapper@sha256:".toList ++ List.replicate 64 '5')
      composeText := [7]
      manifestText := fun _ => [8]
      stateManifestText := fun _ => [9] }
  allowFirstApply := false
  actionName := "rollout_image_promote".toList
  preparesEnv := true
  preApplyAdmission := .promotion

/-- The required keys of `.env` are missing. -/
def envKeysMissing : Op → Bool
  | .check .requiredEnvKeys => true
  | _ => false

/-- The action log cannot be written. -/
def logUnwritable : Op → Bool
  | .check .appendActionLog => true
  | _ => false

/-- The slot after a promotion that failed before the compose file was replaced. -/
def failedPromotion : SlotState :=
  (eval (execute envKeysMissing) (applyDesiredSlot promoteRequest) deployedSlot).2

/-- The slot after the operator's rollback of it. -/
def rolledBackPromotion : SlotState :=
  (eval (execute nothingBroken) (cmdRollback none) failedPromotion).2

/-- The slot after a promotion in which nothing failed. -/
def promoted : SlotState :=
  (eval (execute nothingBroken) (applyDesiredSlot promoteRequest) deployedSlot).2

theorem canary_in_step_promoted :
    CarefulSession deployedSlot promoted ∧ InStep promoted ∧ ¬ Refused promoted := by
  have hsession : CarefulSession deployedSlot promoted :=
    .single ⟨.apply promoteRequest, trivial, .inl ⟨_, ends_execute carefulFault _ _⟩⟩
  exact ⟨hsession, canary_in_step rfl hsession⟩

theorem canary_outlives_rollback :
    deployedSlot.marker = none ∧ deployedSlot.canary = none ∧
      AnySession deployedSlot rolledBackPromotion ∧
      ¬ (InStep rolledBackPromotion ∧ ¬ Refused rolledBackPromotion) := by
  have hsession : AnySession deployedSlot rolledBackPromotion :=
    .tail (.single ⟨.apply promoteRequest, trivial, .inl ⟨_, ends_execute_broken envKeysMissing _ _⟩⟩)
      ⟨.rollback none, trivial, .inl ⟨_, ends_execute anyFault _ _⟩⟩
  refine ⟨rfl, rfl, hsession, fun h => ?_⟩
  have hopen : rolledBackPromotion.canary.isSome = true := by decide +kernel
  rw [h.1 (by decide +kernel)] at hopen
  cases hopen

/-- The slot after a promotion whose last step, the action log, failed. -/
def unlogged : SlotState :=
  (eval (execute logUnwritable) (applyDesiredSlot promoteRequest) deployedSlot).2

theorem receipts_tell_the_truth_promoted :
    TruthfulSession deployedSlot promoted ∧
      (∃ r ∈ promoted.receipts, r.outcome = .candidateSucceeded) ∧
      OneContent promoted ∧ ReceiptsTrue deployedSlot promoteRequest promoted := by
  have hends := ends_execute (truthfulFault deployedSlot.tokens)
    (applyDesiredSlot promoteRequest) deployedSlot
  have hreport : (eval (execute nothingBroken) (applyDesiredSlot promoteRequest) deployedSlot).1 =
      .ok { code := 0, rollback := none } := by decide +kernel
  have hclosed : AppliesClosed deployedSlot (.apply promoteRequest) := fun _ => .inl rfl
  have hsession : TruthfulSession deployedSlot promoted :=
    .single ⟨.apply promoteRequest, hclosed, .inl ⟨_, hends⟩⟩
  refine ⟨hsession, by decide +kernel, (receipts_tell_the_truth_once rfl hsession).1, ?_⟩
  rw [hreport] at hends
  exact (receipts_tell_the_truth_once rfl .refl).2 promoteRequest _ promoted hclosed hends (.inl rfl)

theorem receipt_of_rolled_back_candidate :
    Ends (Outcome anyFault) (applyDesiredSlot promoteRequest) deployedSlot
        (.ok { code := 1, rollback := some true }) unlogged ∧
      ¬ ReceiptsTrue deployedSlot promoteRequest unlogged := by
  have hends := ends_execute_broken logUnwritable (applyDesiredSlot promoteRequest) deployedSlot
  have hreport : (eval (execute logUnwritable) (applyDesiredSlot promoteRequest) deployedSlot).1 =
      .ok { code := 1, rollback := some true } := by decide +kernel
  rw [hreport] at hends
  refine ⟨hends, fun h => ?_⟩
  have hreceipt : ∃ r ∈ unlogged.receipts, deployedSlot.tokens ≤ r.transactionId ∧
      r.outcome = .candidateSucceeded := by decide +kernel
  obtain ⟨r, hr, hfresh, houtcome⟩ := hreceipt
  have htrue := h r hr hfresh
  rw [houtcome] at htrue
  have hcontainers := htrue.up.containers
  revert hcontainers
  decide +kernel

end samples

end AgentRuntimeOps.Runtime
