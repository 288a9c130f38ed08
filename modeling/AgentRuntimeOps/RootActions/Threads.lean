import AgentRuntimeOps.RootActions.Service
import AgentRuntimeOps.RootActions.StoreHistory

/-!
# What the threads of the system do

`heldRules` are the rules of the ghost knowledge `Held`: a job is queued only by the thread that
claimed it, its handler is called only by the thread that took it out of the queue, and orphans are
marked by main programs, which write nothing else.  Every program of the service keeps them
(`keeps_request`, `keeps_worker`, `keeps_main`), whatever answers it gets from a store that other
threads change.
-/

set_option linter.unusedSectionVars false

namespace AgentRuntimeOps.RootActions

open AgentRuntimeOps.Lib Program

/-! ## Answers and rules -/

/-- What an answer says in every store: it is about the job that was asked for. -/
def Answers : (op : Op) → op.Res → Prop
  | .read (.readSealed jobId), job => SealedJob.jobId job = jobId
  | .read (.readRecord jobId), record => JobRecord.jobId record = jobId
  | .write (.compareAndAppend event), record => JobRecord.jobId record = event.jobId
  | .write (.claimWithApproval _ _ _ _ event), record => JobRecord.jobId record = event.jobId
  | _, _ => True

/-- The writes that the programs of the service perform; the receipt of an unknown outcome gives
the reason that the record gets. -/
def StoreWrite.isSystem : StoreWrite → Bool
  | .compareAndAppend event => event.kind = .claimExecution
  | .markClaimedExecutionUnknown event _ receipt =>
      receipt.canonicalReceipt.field "reason_code" = .ofOption event.reasonCode
  | .sealRejected .. | .sealWithLineageAdmission .. | .completeClaimedExecution ..
  | .createAuthBootstrap .. | .issueRegistrationCeremony ..
  | .completeRegistration .. | .issueApprovalCeremony .. | .claimWithApproval .. => true
  | _ => false

/-- The reason of a job that a process finds running when it starts. -/
def restartReason : String := "broker_restarted_with_running_job"

/-- The write marks an orphan. -/
def StoreWrite.isRecovery : StoreWrite → Bool
  | .markClaimedExecutionUnknown event .. => event.reasonCode = some restartReason
  | _ => false

/-- The thread is a main program. -/
def Held.isMain : Held → Bool
  | .recovering => true
  | _ => false

/-- When an operation is allowed. -/
def Held.allows (held : Held) : Op → Prop
  | .write w => w.isSystem = true ∧ w.isRecovery = held.isMain
  | .putNowait jobId _ => held = .claimed jobId
  | .runHandler job => held = .executing job.jobId
  | .startWorker | .openListener => held.isMain = true
  | _ => True

/-- The rules of `Held`. -/
def heldRules : Rules Op Op.Res Exn Held where
  pre held op := held.allows op
  resp held op r held' := (∀ a, r = .ok a → Answers op a) ∧ held' = held.after op r

/-- The operations that are always allowed and change nothing a thread holds. -/
def Op.isNeutral : Op → Bool
  | .write _ | .putNowait .. | .runHandler _ | .startWorker | .openListener => false
  | _ => true

/-- Every operation of the program is neutral. -/
abbrev Neutral {α : Type} (code : Prog α) : Prop := AllOps (fun op => op.isNeutral = true) code

/-- A thread keeps the rules. -/
def Keeps {α : Type} (held : Held) (code : Prog α) : Prop :=
  Safe heldRules (fun _ _ => True) (fun _ _ => True) held code

/-- The operations that touch neither the store nor a queue nor a handler. -/
def Op.isSilent : Op → Bool
  | .write _ | .putNowait .. | .runHandler _ => false
  | _ => true

lemma isSilent_of_isNeutral {op : Op} (h : op.isNeutral = true) : op.isSilent = true := by
  cases op with
  | write w => cases h
  | putNowait jobId jobDigest => cases h
  | runHandler job => cases h
  | _ => rfl

lemma after_of_isSilent {op : Op} (h : op.isSilent = true) (held : Held)
    (r : Except Exn op.Res) : held.after op r = held := by
  cases op with
  | write w => cases h
  | putNowait jobId jobDigest => cases h
  | runHandler job => cases h
  | _ => rfl

lemma allows_of_isNeutral {op : Op} (h : op.isNeutral = true) (held : Held) : held.allows op := by
  cases op with
  | write w => cases h
  | putNowait jobId jobDigest => cases h
  | runHandler job => cases h
  | startWorker => cases h
  | openListener => cases h
  | _ => trivial

/-- A call that raises changes nothing that a thread holds. -/
lemma after_write_error (held : Held) (w : StoreWrite) (exc : Exn) :
    held.after (.write w) (.error exc) = held := by
  cases w <;> rfl

/-- A thread that is no main program does not become one. -/
lemma isMain_after_of_not {held : Held} (h : held.isMain = false) (op : Op)
    (r : Except Exn op.Res) : (held.after op r).isMain = false := by
  cases op with
  | write w =>
      cases r with
      | error exc => rwa [after_write_error]
      | ok a =>
          cases w with
          | sealWithLineageAdmission job =>
              let sealed : JobRecord × SubmissionAdmission := a
              change (if sealed.2.allowed then Held.admitted job.jobId else held).isMain = false
              split_ifs
              · rfl
              · exact h
          | compareAndAppend event =>
              change (if event.kind = .claimExecution then Held.claimed event.jobId
                else held).isMain = false
              split_ifs
              · rfl
              · exact h
          | markClaimedExecutionUnknown event raw receipt =>
              change (if held = .recovering then Held.recovering else Held.none).isMain = false
              split_ifs with hheld
              · rwa [hheld] at h
              · rfl
          | claimWithApproval => rfl
          | completeClaimedExecution => rfl
          | _ => exact h
  | putNowait jobId jobDigest =>
      cases r with
      | error exc => exact h
      | ok queued =>
          let queued : Bool := queued
          change (if queued then Held.none else held).isMain = false
          split_ifs
          · rfl
          · exact h
  | runHandler job => rfl
  | _ => exact h

/-- An allowed operation does not make a main program of a call, nor the other way round. -/
lemma isMain_after {held : Held} {op : Op} (h : held.allows op) (r : Except Exn op.Res) :
    (held.after op r).isMain = held.isMain := by
  cases hheld : held with
  | recovering =>
      subst hheld
      cases op with
      | write w =>
          obtain ⟨-, hrecovery⟩ := h
          cases w with
          | markClaimedExecutionUnknown event raw receipt =>
              cases r with
              | error exc => rfl
              | ok a => rfl
          | _ => cases hrecovery
      | putNowait jobId jobDigest => cases h
      | runHandler job => cases h
      | _ => rfl
  | _ =>
      rw [hheld] at h
      exact isMain_after_of_not rfl op r

/-- A program of neutral operations keeps what is held. -/
lemma safe_of_neutral {α : Type} {code : Prog α} (h : Neutral code) (held : Held) :
    Safe heldRules (fun g _ => g = held) (fun g _ => g = held) held code := by
  refine safe_of_allOps h (fun g op hop => allows_of_isNeutral hop g) ?_ held
  rintro g op r g' hop ⟨-, rfl⟩
  exact after_of_isSilent (isSilent_of_isNeutral hop) g r

lemma keeps_of_neutral {α : Type} {code : Prog α} (h : Neutral code) (held : Held) :
    Keeps held code :=
  (safe_of_neutral h held).mono (fun _ _ _ => trivial) fun _ _ _ => trivial

/-- A thread that keeps the rules ends as what it started as. -/
lemma Keeps.safe {α : Type} {held : Held} {code : Prog α} (h : Keeps held code) :
    Safe heldRules (fun g _ => g.isMain = held.isMain) (fun g _ => g.isMain = held.isMain)
      held code := by
  induction code generalizing held with
  | ret a => rfl
  | fail e => rfl
  | call op k ih =>
      refine ⟨h.1, fun r g hresp => ?_⟩
      have hside : g.isMain = held.isMain := by
        rw [hresp.2]
        exact isMain_after h.1 r
      rw [← hside]
      exact ih r (h.2 r g hresp)

section rules

variable {α β : Type} {held : Held}

/-- A sequence that starts with neutral operations. -/
lemma keeps_neutral_bind {p : Prog α} {f : α → Prog β} (hp : Neutral p)
    (hf : ∀ a, Keeps held (f a)) : Keeps held (p >>= f) := by
  unfold Keeps
  rw [safe_bind]
  refine (safe_of_neutral hp held).mono ?_ fun _ _ _ => trivial
  rintro g a rfl
  exact hf a

/-- A sequence whose rest keeps the rules whatever job is held. -/
lemma keeps_bind {p : Prog α} {f : α → Prog β} (hp : Keeps held p)
    (hf : ∀ a held', held'.isMain = held.isMain → Keeps held' (f a)) : Keeps held (p >>= f) := by
  unfold Keeps
  rw [safe_bind]
  exact hp.safe.mono (fun g a hside => hf a g hside) fun _ _ _ => trivial

lemma keeps_discard {p : Prog α} (hp : Keeps held p) : Keeps held (discard p) :=
  keeps_bind hp fun _ _ _ => trivial

lemma keeps_tryCatch {p : Prog α} {h : Exn → Prog α} (hp : Keeps held p)
    (hh : ∀ e held', held'.isMain = held.isMain → Keeps held' (h e)) :
    Keeps held (tryCatch p h) := by
  unfold Keeps
  rw [safe_tryCatch]
  exact hp.safe.mono (fun _ _ _ => trivial) fun g e hside => hh e g hside

/-- A write, at the end or before a rest that keeps the rules anyway. -/
lemma keeps_write {w : StoreWrite} (h : w.isSystem = true ∧ w.isRecovery = held.isMain) :
    Keeps held (Prog.write w) :=
  safe_perform.mpr ⟨h, fun _ _ _ => trivial, fun _ _ _ => trivial⟩

/-- A write and a rest that may use what the answer says. -/
lemma keeps_write_bind {w : StoreWrite} {f : w.Res → Prog β}
    (h : w.isSystem = true ∧ w.isRecovery = held.isMain)
    (hf : ∀ a : w.Res, Answers (.write w) a → Keeps (held.after (.write w) (.ok a)) (f a)) :
    Keeps held (Prog.write w >>= f) := by
  unfold Keeps
  rw [safe_bind]
  refine safe_perform.mpr ⟨h, ?_, fun _ _ _ => trivial⟩
  rintro a g ⟨hanswer, rfl⟩
  exact hf a (hanswer a rfl)

/-- A read and a rest that may use what the answer says. -/
lemma keeps_read_bind {r : StoreRead} {f : r.Res → Prog β}
    (hf : ∀ a : r.Res, Answers (.read r) a → Keeps held (f a)) :
    Keeps held (Prog.read r >>= f) := by
  unfold Keeps
  rw [safe_bind]
  refine safe_perform.mpr ⟨trivial, ?_, fun _ _ _ => trivial⟩
  rintro a g ⟨hanswer, rfl⟩
  exact hf a (hanswer a rfl)

/-- A pure computation and a rest that may use its value. -/
lemma keeps_ofExcept_bind {x : Except Exn α} {f : α → Prog β}
    (hf : ∀ a, x = .ok a → Keeps held (f a)) : Keeps held (Program.ofExcept x >>= f) := by
  cases x with
  | error exc => trivial
  | ok a => exact hf a rfl

lemma keeps_forEach {f : α → Prog β} {side : Bool}
    (hf : ∀ a held, held.isMain = side → Keeps held (f a)) (as : List α)
    (hheld : held.isMain = side) : Keeps held (forEach f as) := by
  induction as generalizing held with
  | nil => trivial
  | cons a as ih =>
      refine keeps_bind (hf a held hheld) fun b held' hside => ?_
      exact keeps_bind (ih (hside.trans hheld)) fun _ _ _ => trivial

end rules

/-! ## Programs that only read and publish -/

section neutral

variable [UnicodeData] (cfg : BrokerConfig)

lemma neutral_perform {op : Op} (h : op.isNeutral = true) :
    Neutral (perform op : Prog op.Res) := allOps_perform.mpr h

lemma neutral_read (r : StoreRead) : Neutral (Prog.read r) := neutral_perform rfl

lemma neutral_nextEvent : Neutral Prog.nextEvent := neutral_perform rfl

lemma neutral_readOptionalReceipt (job : SealedJob) :
    Neutral (readOptionalReceipt job) := by
  refine allOps_tryCatch (allOps_bind (neutral_read _) fun _ => trivial) fun exc => ?_
  split_ifs
  · trivial
  · trivial

lemma neutral_statusProjection (job : SealedJob) (record : JobRecord)
    (receipt : Option ReceiptArtifact) :
    Neutral (cfg.statusProjection job record receipt) :=
  allOps_bind (neutral_read _) fun _ => allOps_ofExcept _

lemma neutral_publicProjection (jobId : String) :
    Neutral (cfg.publicProjection jobId) := by
  refine allOps_bind (neutral_read _) fun job => ?_
  refine allOps_bind (neutral_readOptionalReceipt job) fun receipt => ?_
  refine allOps_bind (neutral_read _) fun record => ?_
  refine allOps_bind (neutral_statusProjection cfg job record receipt) fun status => ?_
  refine allOps_bind (neutral_read _) fun entries => ?_
  exact allOps_bind (allOps_ofExcept _) fun history => allOps_ofExcept _

lemma neutral_status (jobId : String) : Neutral (cfg.status jobId) := by
  refine allOps_bind (neutral_read _) fun job => allOps_bind (neutral_read _) fun record => ?_
  exact allOps_bind (neutral_readOptionalReceipt job) fun receipt =>
    neutral_statusProjection cfg job record receipt

lemma neutral_publish (bundle : PublicProjectionBundle) : Neutral (cfg.publish bundle) := by
  unfold BrokerConfig.publish
  split
  · exact neutral_perform rfl
  · trivial

lemma neutral_remember (bundle : PublicProjectionBundle) : Neutral (Prog.remember bundle) :=
  neutral_perform rfl

lemma neutral_publishCatalog : Neutral cfg.publishCatalog := by
  unfold BrokerConfig.publishCatalog
  split_ifs
  · refine allOps_bind (neutral_read _) fun catalog => ?_
    refine allOps_bind (allOps_forEach (neutral_publicProjection cfg) _) fun bundles => ?_
    exact neutral_perform rfl
  · trivial

lemma neutral_publishBestEffort (bundle : PublicProjectionBundle) :
    Neutral (cfg.publishBestEffort bundle) := by
  refine allOps_bind (allOps_tryCatch ?_ fun _ => trivial) fun done => ?_
  · exact allOps_bind (neutral_publish cfg bundle) fun _ =>
      allOps_bind (neutral_publishCatalog cfg) fun _ => trivial
  · split
    · exact neutral_perform rfl
    · trivial

lemma neutral_publishNewer (jobId : String) (bundle : PublicProjectionBundle) :
    Neutral (cfg.publishNewer jobId bundle) := by
  refine allOps_bind (neutral_perform rfl) fun known => ?_
  split_ifs
  · exact neutral_publicProjection cfg jobId
  · trivial
  · exact allOps_bind (neutral_publishBestEffort cfg bundle) fun _ => trivial

lemma neutral_repairPublic (jobId : String) (bundle : Option PublicProjectionBundle) :
    Neutral (cfg.repairPublic jobId bundle) := by
  refine allOps_bind (neutral_read _) fun current => ?_
  split
  · exact neutral_publishNewer cfg jobId _
  · exact allOps_bind (neutral_publicProjection cfg jobId) fun bundle =>
      neutral_publishNewer cfg jobId bundle

lemma neutral_repairPublicBestEffort (jobId : String) :
    Neutral (cfg.repairPublicBestEffort jobId) :=
  allOps_bind (neutral_publicProjection cfg jobId) fun bundle =>
    neutral_repairPublic cfg jobId (some bundle)

lemma neutral_requesterProjection (peer : BrokerPeerIdentity)
    (jobId jobDigest requestId replyTarget : String) : Neutral
      (cfg.requesterProjection peer jobId jobDigest requestId replyTarget) := by
  refine allOps_bind (neutral_read _) fun metadata => allOps_bind (allOps_ofExcept _) fun _ => ?_
  refine allOps_bind (neutral_read _) fun job => allOps_bind (allOps_ofExcept _) fun _ => ?_
  exact neutral_repairPublicBestEffort cfg jobId

lemma neutral_reconcilePublic : Neutral cfg.reconcilePublic := by
  refine allOps_bind (neutral_read _) fun jobIds => ?_
  refine allOps_bind (allOps_forEach (neutral_publicProjection cfg) _) fun bundles => ?_
  refine allOps_bind (allOps_bind (allOps_forEach (neutral_publish cfg) _) fun _ => trivial) fun _ => ?_
  refine allOps_bind (neutral_publishCatalog cfg) fun _ => ?_
  refine allOps_bind (allOps_bind (allOps_forEach neutral_remember _)
    fun _ => trivial) fun _ => trivial

lemma neutral_repair (jobId : String) : Neutral (cfg.repair jobId) :=
  allOps_tryCatch (allOps_bind (neutral_repairPublicBestEffort cfg jobId) fun _ => trivial)
    fun _ => trivial

lemma neutral_reportSubmitted (job : SealedJob) (record : JobRecord) :
    Neutral (cfg.reportSubmitted job record) := by
  refine allOps_bind (neutral_readOptionalReceipt job) fun receipt => ?_
  refine allOps_bind (neutral_statusProjection cfg job record receipt) fun status => ?_
  exact allOps_bind (allOps_bind (neutral_repairPublic cfg job.jobId none) fun _ => trivial)
    fun _ => trivial

lemma neutral_recoverIdempotent (job : SealedJob) (peer : BrokerPeerIdentity) :
    Neutral (cfg.recoverIdempotent job peer) := by
  refine allOps_bind (neutral_read _) fun existing => allOps_bind (neutral_read _) fun metadata => ?_
  refine allOps_bind (allOps_ofExcept _) fun _ => allOps_bind (neutral_read _) fun record => ?_
  exact neutral_reportSubmitted cfg job record

lemma neutral_isSealed (jobId : String) :
    Neutral (BrokerConfig.isSealed jobId) := by
  refine allOps_tryCatch (allOps_bind (allOps_bind (neutral_read _) fun _ => trivial)
    fun _ => trivial) fun exc => ?_
  split_ifs
  · trivial
  · trivial

lemma neutral_authStatus : Neutral authStatus :=
  allOps_bind (neutral_read _) fun _ => allOps_bind (neutral_read _) fun _ => trivial

lemma neutral_newId (kind : String) : Neutral (newId kind) :=
  allOps_bind (neutral_perform rfl) fun _ => trivial

end neutral

/-! ## Programs that claim and execute -/

section programs

variable [UnicodeData] (cfg : BrokerConfig)

/-- A main program gives the restart as its reason, and nobody else does. -/
lemma keeps_markUnknown {held : Held} {reasonCode : String}
    (hreason : decide (reasonCode = restartReason) = held.isMain)
    (jobId jobDigest failureType : String) :
    Keeps held (markUnknown jobId jobDigest reasonCode failureType) := by
  refine keeps_neutral_bind (neutral_read _) fun job => ?_
  refine keeps_neutral_bind (neutral_read _) fun record => ?_
  refine keeps_neutral_bind (allOps_ofExcept _) fun _ => ?_
  refine keeps_neutral_bind neutral_nextEvent fun event => keeps_ofExcept_bind fun sealed hsealed => ?_
  refine keeps_discard (keeps_write ⟨decide_eq_true ?_, ?_⟩)
  · rw [canonicalReceipt_of_sealUnknown hsealed]
    rfl
  · rw [← hreason]
    change decide (some reasonCode = some restartReason) = _
    simp only [Option.some.injEq]

lemma keeps_recoverOrphan {held : Held} (hmain : held.isMain = true) (jobId : String) :
    Keeps held (cfg.recoverOrphan jobId) := by
  refine keeps_neutral_bind (neutral_read _) fun record => ?_
  refine keeps_bind (keeps_markUnknown (by rw [hmain]; rfl) _ _ _) fun _ held' _ => ?_
  exact keeps_neutral_bind (neutral_repair cfg jobId) fun _ => trivial

lemma keeps_refuse {held : Held} {reasonCode : String} (hcall : held.isMain = false)
    (hreason : reasonCode ≠ restartReason) (jobId jobDigest failureType message : String) :
    Keeps held (cfg.refuse jobId jobDigest reasonCode failureType message) := by
  have hside : decide (reasonCode = restartReason) = held.isMain := by
    rw [hcall]
    exact decide_eq_false hreason
  refine keeps_bind (keeps_markUnknown hside _ _ _) fun _ held' _ => ?_
  exact keeps_neutral_bind (neutral_repair cfg jobId) fun _ => trivial

/-- Only a claimed job is queued. -/
lemma keeps_enqueue (jobId jobDigest : String) :
    Keeps (.claimed jobId) (cfg.enqueue jobId jobDigest) := by
  refine keeps_neutral_bind (neutral_perform rfl) fun alive => ?_
  split_ifs
  · refine keeps_neutral_bind (neutral_read _) fun record => ?_
    refine keeps_neutral_bind (allOps_ofExcept _) fun _ => ?_
    refine keeps_bind (safe_perform.mpr ⟨rfl, fun _ _ _ => trivial, fun _ _ _ => trivial⟩)
      fun queued held hcall => ?_
    split_ifs
    · trivial
    · exact keeps_refuse cfg hcall (by decide) _ _ _ _
  · exact keeps_refuse cfg rfl (by decide) _ _ _ _

lemma keeps_autoClaimAndDispatch {held : Held} (hcall : held.isMain = false) (job : SealedJob)
    (record : JobRecord) : Keeps held (cfg.autoClaimAndDispatch job record) := by
  refine keeps_neutral_bind neutral_nextEvent fun event => keeps_write_bind ⟨rfl, hcall.symm⟩ ?_
  intro claimed hclaimed
  -- The answer of the claim is a record of the job that was claimed.
  have hid : JobRecord.jobId claimed = job.jobId := hclaimed
  change Keeps (.claimed job.jobId) _
  rw [← hid]
  refine keeps_tryCatch (keeps_bind (keeps_enqueue cfg _ _) fun _ _ _ => trivial) ?_
  intro _ held' _
  exact keeps_tryCatch (keeps_of_neutral (neutral_read _) held') fun _ _ _ => trivial

lemma keeps_afterSeal {held : Held} (hcall : held.isMain = false) (job : SealedJob)
    (policy : ExecutionPolicy) (record : JobRecord) (allowed : Bool) :
    Keeps held (cfg.afterSeal job policy record allowed) := by
  unfold BrokerConfig.afterSeal
  split_ifs
  · exact keeps_bind (keeps_autoClaimAndDispatch cfg hcall job record) fun claimed held' _ =>
      keeps_of_neutral (neutral_reportSubmitted cfg job claimed) held'
  · exact keeps_of_neutral (neutral_reportSubmitted cfg job record) held

lemma neutral_afterConflict (job : SealedJob) (peer : BrokerPeerIdentity) (exc : Exn) :
    Neutral (cfg.afterConflict job peer exc) := by
  unfold BrokerConfig.afterConflict
  split_ifs
  · refine allOps_tryCatch (neutral_recoverIdempotent cfg job peer) fun exc' => ?_
    split_ifs
    · trivial
    · trivial
  · trivial

lemma keeps_sealOrRecover {α : Type} {held : Held} {job : SealedJob} {peer : BrokerPeerIdentity}
    {sealing : Prog α} {next : α → Prog SubmittedJob} (hsealing : Keeps held sealing)
    (hnext : ∀ a held', held'.isMain = held.isMain → Keeps held' (next a)) :
    Keeps held (cfg.sealOrRecover job peer sealing next) := by
  refine keeps_bind (keeps_tryCatch (keeps_bind hsealing fun _ _ _ => trivial)
    fun _ _ _ => trivial) ?_
  intro sealed held' hside
  cases sealed with
  | ok a => exact hnext a held' hside
  | error exc => exact keeps_of_neutral (neutral_afterConflict cfg job peer exc) held'

lemma keeps_submitRejected {held : Held} (hcall : held.isMain = false) (job : SealedJob)
    (peer : BrokerPeerIdentity) (event : String × String) (submission : SubmissionMetadata)
    (policy : ExecutionPolicy) : Keeps held (cfg.submitRejected job peer event submission policy) := by
  unfold BrokerConfig.submitRejected
  refine keeps_neutral_bind neutral_nextEvent fun close => ?_
  generalize sealReceipt _ = notice
  refine keeps_neutral_bind (allOps_ofExcept _) fun notice => ?_
  exact keeps_sealOrRecover cfg (keeps_write ⟨rfl, hcall.symm⟩) fun sealed held' hside =>
    keeps_afterSeal cfg (hside.trans hcall) job policy sealed false

lemma keeps_submitEnabled {held : Held} (hcall : held.isMain = false) (job : SealedJob)
    (peer : BrokerPeerIdentity) (event : String × String) (submission : SubmissionMetadata)
    (policy : ExecutionPolicy) : Keeps held (cfg.submitEnabled job peer event submission policy) := by
  unfold BrokerConfig.submitEnabled
  refine keeps_neutral_bind neutral_nextEvent fun circuit => ?_
  generalize sealReceipt _ = notice
  refine keeps_neutral_bind (allOps_ofExcept _) fun notice => ?_
  exact keeps_sealOrRecover cfg (keeps_write ⟨rfl, hcall.symm⟩) fun sealed held' hside =>
    keeps_afterSeal cfg (hside.trans hcall) job policy sealed.1 sealed.2.allowed

lemma keeps_submit {held : Held} (hcall : held.isMain = false) (manifest : Document)
    (peer : BrokerPeerIdentity) : Keeps held (cfg.submit manifest peer) := by
  refine keeps_neutral_bind (allOps_ofExcept _) fun job => ?_
  refine keeps_neutral_bind (neutral_isSealed job.jobId) fun existing => ?_
  split_ifs
  · exact keeps_of_neutral (neutral_recoverIdempotent cfg job peer) held
  unfold BrokerConfig.submitNew
  refine keeps_neutral_bind neutral_nextEvent fun event => ?_
  refine keeps_neutral_bind (allOps_ofExcept _) fun submission => ?_
  refine keeps_neutral_bind (allOps_ofExcept _) fun policy => ?_
  refine keeps_neutral_bind (allOps_ofExcept _) fun _ => ?_
  split_ifs
  · exact keeps_submitEnabled cfg hcall job peer event submission policy
  · exact keeps_submitRejected cfg hcall job peer event submission policy

lemma keeps_createInitialBootstrap {held : Held} (hcall : held.isMain = false) :
    Keeps held createInitialBootstrap := by
  refine keeps_neutral_bind neutral_nextEvent fun event => ?_
  refine keeps_neutral_bind (neutral_perform rfl) fun token => ?_
  refine keeps_neutral_bind (neutral_newId _) fun bootstrapId => ?_
  refine keeps_neutral_bind (allOps_ofExcept _) fun tokenDigest => ?_
  refine keeps_neutral_bind (allOps_ofExcept _) fun expiresAt => ?_
  refine keeps_neutral_bind (allOps_ofExcept _) fun _ => ?_
  exact keeps_bind (keeps_discard (keeps_write ⟨rfl, hcall.symm⟩)) fun _ _ _ => trivial

lemma keeps_beginRegistration {held : Held} (hcall : held.isMain = false)
    (token : Except Exn (List UInt8)) (role : CredentialRole) (label : String) :
    Keeps held (beginRegistration token role label) := by
  refine keeps_neutral_bind (allOps_ofExcept _) fun token => ?_
  refine keeps_neutral_bind (allOps_ofExcept _) fun tokenDigest => ?_
  refine keeps_neutral_bind neutral_nextEvent fun event => ?_
  refine keeps_neutral_bind (allOps_ofExcept _) fun expiresAt => ?_
  refine keeps_neutral_bind (neutral_perform rfl) fun nonce => ?_
  refine keeps_neutral_bind (neutral_read _) fun bootstrap => ?_
  refine keeps_neutral_bind (allOps_ofExcept _) fun challenge => ?_
  refine keeps_neutral_bind (neutral_newId _) fun ceremonyId => ?_
  refine keeps_neutral_bind (allOps_ofExcept _) fun _ => ?_
  refine keeps_bind (keeps_discard (keeps_write ⟨rfl, hcall.symm⟩)) fun _ held' _ => ?_
  refine keeps_neutral_bind neutral_authStatus fun credentials => ?_
  exact keeps_bind (keeps_discard (keeps_of_neutral (neutral_perform rfl) _)) fun _ _ _ => trivial

lemma keeps_finishRegistration {held : Held} (hcall : held.isMain = false)
    (token : Except Exn (List UInt8)) (ceremonyId : String) (message : BrowserCredential) :
    Keeps held (finishRegistration token ceremonyId message) := by
  refine keeps_neutral_bind (allOps_ofExcept _) fun token => ?_
  refine keeps_neutral_bind (allOps_ofExcept _) fun tokenDigest => ?_
  refine keeps_neutral_bind (neutral_read _) fun ceremony => ?_
  refine keeps_neutral_bind neutral_nextEvent fun event => ?_
  refine keeps_neutral_bind (neutral_perform rfl) fun credential => ?_
  refine keeps_bind (keeps_discard (keeps_write ⟨rfl, hcall.symm⟩)) fun _ held' _ => ?_
  exact keeps_neutral_bind (neutral_read _) fun _ => trivial

lemma keeps_beginApproval {held : Held} (hcall : held.isMain = false)
    (jobId jobDigest : String) : Keeps held (beginApproval jobId jobDigest) := by
  refine keeps_neutral_bind (neutral_read _) fun job => ?_
  refine keeps_neutral_bind (allOps_ofExcept _) fun _ => ?_
  refine keeps_neutral_bind neutral_nextEvent fun event => ?_
  refine keeps_neutral_bind (allOps_ofExcept _) fun expiresAt => ?_
  refine keeps_neutral_bind (neutral_perform rfl) fun nonce => ?_
  refine keeps_neutral_bind (allOps_ofExcept _) fun challenge => ?_
  refine keeps_neutral_bind (neutral_newId _) fun ceremonyId => ?_
  refine keeps_neutral_bind (allOps_ofExcept _) fun _ => ?_
  refine keeps_bind (keeps_discard (keeps_write ⟨rfl, hcall.symm⟩)) fun _ held' _ => ?_
  refine keeps_neutral_bind (neutral_read _) fun credentials => ?_
  exact keeps_bind (keeps_discard (keeps_of_neutral (neutral_perform rfl) _)) fun _ _ _ => trivial

lemma keeps_finishApproval {held : Held} (hcall : held.isMain = false) (ceremonyId : String)
    (message : BrowserCredential) : Keeps held (cfg.finishApproval ceremonyId message) := by
  refine keeps_neutral_bind (neutral_read _) fun ceremony => ?_
  refine keeps_neutral_bind (neutral_perform rfl) fun credentialId => ?_
  refine keeps_neutral_bind (neutral_read _) fun credential => ?_
  refine keeps_neutral_bind (allOps_ofExcept _) fun _ => ?_
  refine keeps_neutral_bind (neutral_perform rfl) fun verified => ?_
  refine keeps_neutral_bind neutral_nextEvent fun event => ?_
  refine keeps_neutral_bind (neutral_newId _) fun approvalId => ?_
  refine keeps_neutral_bind (allOps_ofExcept _) fun _ => keeps_write_bind ⟨rfl, hcall.symm⟩ ?_
  intro claimed hclaimed
  have hid : JobRecord.jobId claimed = ceremony.jobId.getD "" := hclaimed
  change Keeps (.claimed (ceremony.jobId.getD "")) _
  rw [← hid]
  exact keeps_bind (keeps_enqueue cfg _ _) fun _ _ _ => trivial

/-- **Every call of the service keeps the rules.** -/
theorem keeps_request {held : Held} (hcall : held.isMain = false) (request : Request) :
    Keeps held (request.program cfg) := by
  cases request with
  | submit manifest peer =>
      exact keeps_bind (keeps_submit cfg hcall manifest peer) fun _ _ _ => trivial
  | status jobId => exact keeps_neutral_bind (neutral_status cfg jobId) fun _ => trivial
  | requesterProjection peer jobId jobDigest requestId replyTarget =>
      exact keeps_neutral_bind (neutral_requesterProjection cfg _ _ _ _ _) fun _ => trivial
  | repairPublic jobId =>
      exact keeps_neutral_bind (neutral_repairPublicBestEffort cfg jobId) fun _ => trivial
  | createInitialBootstrap =>
      exact keeps_bind (keeps_discard (keeps_createInitialBootstrap hcall)) fun _ _ _ => trivial
  | authStatus =>
      exact keeps_bind (keeps_discard (keeps_of_neutral neutral_authStatus held))
        fun _ _ _ => trivial
  | beginRegistration token role label =>
      exact keeps_bind (keeps_beginRegistration hcall token role label) fun _ _ _ => trivial
  | finishRegistration token ceremonyId message =>
      exact keeps_bind (keeps_discard (keeps_finishRegistration hcall token ceremonyId message))
        fun _ _ _ => trivial
  | beginApproval jobId jobDigest =>
      exact keeps_bind (keeps_beginApproval hcall jobId jobDigest) fun _ _ _ => trivial
  | finishApproval ceremonyId message =>
      exact keeps_bind (keeps_finishApproval cfg hcall ceremonyId message) fun _ _ _ => trivial

/-- The handler is called for the job that was queued, and once. -/
lemma keeps_executeClaim (jobId jobDigest : String) :
    Keeps (.executing jobId) (cfg.executeClaim jobId jobDigest) := by
  refine keeps_read_bind fun job hjob => ?_
  have hid : SealedJob.jobId job = jobId := hjob
  refine keeps_neutral_bind (neutral_read _) fun record => ?_
  refine keeps_neutral_bind (allOps_ofExcept _) fun _ => ?_
  refine keeps_neutral_bind (allOps_ofExcept _) fun _ => ?_
  refine keeps_bind (safe_perform.mpr ⟨?_, fun _ _ _ => trivial, fun _ _ _ => trivial⟩)
    fun result held hcall => ?_
  · change Held.executing jobId = .executing (SealedJob.jobId job)
    rw [hid]
  refine keeps_neutral_bind neutral_nextEvent fun event => ?_
  refine keeps_neutral_bind (allOps_ofExcept _) fun sealed => ?_
  exact keeps_discard (keeps_write ⟨rfl, hcall.symm⟩)

lemma keeps_outcomeUncertain {held : Held} (hcall : held.isMain = false)
    (jobId jobDigest failureType : String) :
    Keeps held (outcomeUncertain jobId jobDigest failureType) := by
  refine keeps_tryCatch (keeps_neutral_bind (neutral_read _) fun current => ?_) fun _ _ _ => trivial
  split_ifs
  · exact keeps_markUnknown (by rw [hcall]; rfl) _ _ _
  · trivial

/-- **The worker keeps the rules.** -/
theorem keeps_worker (jobId jobDigest : String) :
    Keeps (.executing jobId) (cfg.workerProgram jobId jobDigest) := by
  refine keeps_bind (keeps_bind (keeps_tryCatch (keeps_executeClaim cfg jobId jobDigest) ?_) ?_) ?_
  · intro exc held hcall
    exact keeps_outcomeUncertain hcall jobId jobDigest exc.cls.name
  · intro _ held _
    exact keeps_of_neutral (neutral_repair cfg jobId) held
  · intro _ _ _
    trivial

/-- **The main program keeps the rules.** -/
theorem keeps_main {held : Held} (hmain : held.isMain = true) : Keeps held cfg.main := by
  refine keeps_bind (keeps_discard (keeps_neutral_bind (neutral_read _) fun jobIds => ?_)) ?_
  · exact keeps_forEach (fun jobId held hheld => keeps_recoverOrphan cfg hheld jobId) _ hmain
  intro _ held' hside
  refine keeps_bind (keeps_discard (keeps_of_neutral (neutral_reconcilePublic cfg) held')) ?_
  intro _ held₁ hside₁
  have hmain₁ : held₁.isMain = true := hside₁.trans (hside.trans hmain)
  refine keeps_bind (safe_perform.mpr ⟨hmain₁, fun _ _ _ => trivial, fun _ _ _ => trivial⟩) ?_
  intro _ held₂ hside₂
  refine keeps_bind (safe_perform.mpr ⟨hside₂.trans hmain₁, fun _ _ _ => trivial,
    fun _ _ _ => trivial⟩) ?_
  intro _ _ _
  trivial

end programs

/-! ## Counting threads -/

/-- Replacing a thread changes a count by what the two threads contribute. -/
lemma countP_set_add {ts : List Thread} {i : Nat} {t : Thread} (ht : ts[i]? = some t) (t' : Thread)
    (q : Thread → Bool) :
    (ts.set i t').countP q + (q t).toNat = ts.countP q + (q t').toNat := by
  obtain ⟨hi, rfl⟩ := List.getElem?_eq_some_iff.mp ht
  have hle := List.boole_getElem_le_countP (p := q) hi
  rw [List.countP_set hi]
  cases hq : q ts[i]
  · cases hq' : q t' <;> simp
  · rw [hq, if_pos rfl] at hle
    cases hq' : q t' <;> simp <;> omega

/-- Removing a thread removes what it contributes. -/
lemma countP_eraseIdx_add {ts : List Thread} {i : Nat} {t : Thread} (ht : ts[i]? = some t)
    (q : Thread → Bool) : (ts.eraseIdx i).countP q + (q t).toNat = ts.countP q := by
  obtain ⟨hi, rfl⟩ := List.getElem?_eq_some_iff.mp ht
  have hperm := (List.getElem_cons_eraseIdx_perm hi).countP_eq q
  rw [List.countP_cons] at hperm
  cases hq : q ts[i]
  · rw [hq] at hperm
    simpa using hperm
  · rw [hq] at hperm
    simpa using hperm

/-! ## Steps of the system -/

section steps

variable [UnicodeData] (env : Env) (cfg : BrokerConfig)

/-- What a step of the system is, case by case. -/
inductive StepTo (w : Sys) : Choice → Sys → Prop where
  | start (p : Nat) (hphase : (w.proc p).phase = .unborn) : StepTo w (.start p)
      ((w.spawn ⟨p, .main, .recovering, cfg.main⟩).setProc p { w.proc p with phase := .starting })
  | call (p : Nat) (request : Request) (hphase : (w.proc p).phase = .serving) :
      StepTo w (.call p request) (w.spawn ⟨p, .call request, .none, request.program cfg⟩)
  | step (i p : Nat) (role : Role) (held : Held) (op : Op)
      (k : Except Exn op.Res → Prog Value)
      (ht : w.threads[i]? = some ⟨p, role, held, .call op k⟩) :
      StepTo w (.step i) { (Sys.exec env p op w).2 with
        threads := w.threads.set i ⟨p, role, held.after op (Sys.exec env p op w).1,
          k (Sys.exec env p op w).1⟩ }
  | finish (i : Nat) (t : Thread) (ht : w.threads[i]? = some t) (hended : Sys.ended t = true) :
      StepTo w (.finish i) ({ w with threads := w.threads.eraseIdx i }.afterEnd t)
  | pop (p : Nat) (item : Queued) (hworker : (w.proc p).worker = .idle)
      (hitem : w.queue.find? (·.pid = p) = some item) :
      StepTo w (.pop p) (({ w with queue := w.queue.erase item }.spawn
        ⟨p, .worker item.jobId item.jobDigest, .executing item.jobId,
          cfg.workerProgram item.jobId item.jobDigest⟩).setProc p { w.proc p with worker := .busy })
  | stopWorker (p : Nat) (hworker : (w.proc p).worker = .idle) :
      StepTo w (.stopWorker p) (w.setProc p { w.proc p with worker := .stopped })
  | stop (p : Nat) (hphase : (w.proc p).phase = .serving)
      (hcalls : ∀ t ∈ w.threads, t.pid = p → ∀ request, t.role ≠ .call request) :
      StepTo w (.stop p) ({ w with lock := if w.lock = some p then none else w.lock }.setProc p
        { w.proc p with phase := .stopping })
  | crash (p : Nat) (hlive : (w.proc p).live = true) : StepTo w (.crash p) (w.kill p)

variable {env cfg} {w w' : Sys} {c : Choice}

/-- **Every step is one of these.** -/
theorem stepTo_of_step (h : Sys.step env cfg c w = some w') : StepTo env cfg w c w' := by
  cases c with
  | start p =>
      rw [Sys.step, Option.ite_none_right_eq_some] at h
      obtain ⟨hphase, hw⟩ := h
      cases hw
      exact .start p hphase
  | call p request =>
      rw [Sys.step, Option.ite_none_right_eq_some] at h
      obtain ⟨hphase, hw⟩ := h
      cases hw
      exact .call p request hphase
  | step i =>
      rw [Sys.step] at h
      split at h
      · rename_i p role held op k ht
        cases h
        exact .step i p role held op k ht
      · cases h
  | finish i =>
      rw [Sys.step] at h
      split at h
      · rename_i t ht
        rw [Option.ite_none_right_eq_some] at h
        obtain ⟨hended, hw⟩ := h
        cases hw
        exact .finish i t ht hended
      · cases h
  | pop p =>
      rw [Sys.step] at h
      split at h
      · rename_i item hworker hitem
        cases h
        exact .pop p item hworker hitem
      · cases h
  | stopWorker p =>
      rw [Sys.step, Option.ite_none_right_eq_some] at h
      obtain ⟨hworker, hw⟩ := h
      cases hw
      exact .stopWorker p hworker
  | stop p =>
      rw [Sys.step, Option.ite_none_right_eq_some] at h
      obtain ⟨⟨hphase, hcalls⟩, hw⟩ := h
      cases hw
      refine .stop p hphase fun t ht hpid request hrole => ?_
      have hcall := List.all_eq_true.mp hcalls t ht
      simp [hpid, hrole] at hcall
  | crash p =>
      rw [Sys.step, Option.ite_none_right_eq_some] at h
      obtain ⟨hlive, hw⟩ := h
      cases hw
      exact .crash p hlive

lemma answers_exec {p : Nat} {op : Op} {a : op.Res} (h : (Sys.exec env p op w).1 = .ok a) :
    Answers op a := by
  cases op with
  | read r =>
      cases r with
      | readSealed jobId => exact jobId_of_readSealed h
      | readRecord jobId => exact jobId_of_readRecord h
      | _ => trivial
  | write c =>
      cases c with
      | compareAndAppend event =>
          have hrun : Store.compareAndAppend event w.store = (.ok a, _) := Prod.ext h rfl
          exact Connection.compareAndAppend_jobId (Tx.transaction_ok.mp hrun)
      | claimWithApproval ceremony credential verified approval claimEvent =>
          have hrun : Store.claimWithApproval ceremony credential verified approval claimEvent
            w.store = (.ok a, _) := Prod.ext h rfl
          obtain ⟨-, -, -, -, s₁, s₂, s₃, -, -, -, happend⟩ := Store.claimWithApproval_ok hrun
          exact Connection.compareAndAppend_jobId happend
      | _ => trivial
  | _ => trivial

/-- Besides a write, no operation touches the store. -/
lemma exec_store_of_ne_write {p : Nat} {op : Op} (h : ∀ c, op ≠ .write c) :
    (Sys.exec env p op w).2.store = w.store := by
  cases op with
  | write c => exact absurd rfl (h c)
  | putNowait jobId jobDigest => rw [Sys.exec]; split <;> rfl
  | openListener => rw [Sys.exec]; split <;> [split; skip] <;> rfl
  | _ => rfl

/-- A silent operation leaves the store, the queue and the handlers alone. -/
lemma exec_of_isSilent {op : Op} (h : op.isSilent = true) (env : Env) (p : Nat) (w : Sys) :
    (Sys.exec env p op w).2.store = w.store ∧ (Sys.exec env p op w).2.queue = w.queue ∧
      (Sys.exec env p op w).2.runs = w.runs := by
  cases op with
  | write c => cases h
  | putNowait jobId jobDigest => cases h
  | runHandler job => cases h
  | openListener => rw [Sys.exec]; split <;> [split; skip] <;> exact ⟨rfl, rfl, rfl⟩
  | _ => exact ⟨rfl, rfl, rfl⟩

lemma exec_putNowait_of_lt {p : Nat} {jobId jobDigest : String}
    (h : (w.queueOf p).length < queueCapacity) :
    Sys.exec env p (.putNowait jobId jobDigest) w =
      (.ok true, { w with tick := w.tick + 1, queue := w.queue ++ [⟨p, jobId, jobDigest⟩] }) :=
  if_pos h

lemma exec_putNowait_of_not_lt {p : Nat} {jobId jobDigest : String}
    (h : ¬ (w.queueOf p).length < queueCapacity) :
    Sys.exec env p (.putNowait jobId jobDigest) w = (.ok false, { w with tick := w.tick + 1 }) :=
  if_neg h

@[simp] lemma store_afterEnd (w : Sys) (t : Thread) : (w.afterEnd t).store = w.store := by
  unfold Sys.afterEnd
  split <;> rfl

@[simp] lemma runs_afterEnd (w : Sys) (t : Thread) : (w.afterEnd t).runs = w.runs := by
  unfold Sys.afterEnd
  split <;> rfl

lemma threads_afterEnd (w : Sys) (t : Thread) : (w.afterEnd t).threads.Sublist w.threads := by
  unfold Sys.afterEnd
  split
  · exact List.Sublist.refl _
  · exact List.filter_sublist
  · exact List.Sublist.refl _
  · exact List.Sublist.refl _

lemma queue_afterEnd (w : Sys) (t : Thread) : (w.afterEnd t).queue.Sublist w.queue := by
  unfold Sys.afterEnd
  split
  · exact List.Sublist.refl _
  · exact List.filter_sublist
  · exact List.Sublist.refl _
  · exact List.Sublist.refl _

/-- Every thread keeps the rules, and the store was written by threads that do. -/
structure Sys.Sound (w : Sys) : Prop where
  kept : ∀ t ∈ w.threads, Keeps t.held t.code
  store : RootActions.ReachableBy (fun c => c.isSystem = true) w.store

namespace Sys.Sound

lemma initial : Sys.initial.Sound := ⟨nofun, .refl⟩

/-- A thread that performs an operation is allowed to. -/
lemma allows {i p : Nat} {role : Role} {held : Held} {op : Op} {k : Except Exn op.Res → Prog Value}
    (h : w.Sound) (ht : w.threads[i]? = some ⟨p, role, held, .call op k⟩) : held.allows op :=
  (h.kept _ (List.mem_of_getElem? ht)).1

lemma spawn {t : Thread} (h : w.Sound) (ht : Keeps t.held t.code) : (w.spawn t).Sound := by
  refine ⟨fun t' ht' => ?_, h.store⟩
  rcases List.mem_append.mp ht' with hold | hnew
  · exact h.kept t' hold
  · obtain rfl := List.mem_singleton.mp hnew
    exact ht

/-- Threads that end take nothing from the others. -/
lemma of_sublist (h : w.Sound) (hthreads : w'.threads.Sublist w.threads)
    (hstore : w'.store = w.store) : w'.Sound :=
  ⟨fun t ht => h.kept t (hthreads.subset ht), hstore ▸ h.store⟩

lemma exec {i p : Nat} {role : Role} {held : Held} {op : Op} {k : Except Exn op.Res → Prog Value}
    (h : w.Sound) (ht : w.threads[i]? = some ⟨p, role, held, .call op k⟩) :
    Sys.Sound { (Sys.exec env p op w).2 with
      threads := w.threads.set i ⟨p, role, held.after op (Sys.exec env p op w).1,
        k (Sys.exec env p op w).1⟩ } := by
  refine ⟨fun t hmem => ?_, ?_⟩
  · rcases List.mem_or_eq_of_mem_set hmem with hold | rfl
    · exact h.kept t hold
    · exact (h.kept _ (List.mem_of_getElem? ht)).2 _ _ ⟨fun _ => answers_exec, rfl⟩
  · by_cases hwrite : ∃ c, op = .write c
    · obtain ⟨c, rfl⟩ := hwrite
      exact h.store.tail (h.allows ht).1 rfl
    · change RootActions.ReachableBy _ (Sys.exec env p op w).2.store
      rw [exec_store_of_ne_write fun c hc => hwrite ⟨c, hc⟩]
      exact h.store

lemma step (h : w.Sound) (hstep : StepTo env cfg w c w') : w'.Sound := by
  cases hstep with
  | start p hphase =>
      have hspawn := h.spawn (t := ⟨p, .main, .recovering, cfg.main⟩) (keeps_main cfg rfl)
      exact hspawn.of_sublist (List.Sublist.refl _) rfl
  | call p request hphase => exact h.spawn (keeps_request cfg rfl request)
  | step i p role held op k ht => exact h.exec ht
  | finish i t ht hended =>
      refine h.of_sublist ((threads_afterEnd _ t).trans (List.eraseIdx_sublist _ _)) ?_
      rw [store_afterEnd]
  | pop p item hworker hitem =>
      have hrest : Sys.Sound { w with queue := w.queue.erase item } :=
        h.of_sublist (List.Sublist.refl _) rfl
      have hspawn := hrest.spawn (t := ⟨p, .worker item.jobId item.jobDigest,
        .executing item.jobId, cfg.workerProgram item.jobId item.jobDigest⟩) (keeps_worker cfg _ _)
      exact hspawn.of_sublist (List.Sublist.refl _) rfl
  | stopWorker p hworker => exact h.of_sublist (List.Sublist.refl _) rfl
  | stop p hphase hcalls => exact h.of_sublist (List.Sublist.refl _) rfl
  | crash p hlive => exact h.of_sublist List.filter_sublist rfl

/-- **Every state the system reaches is sound.** -/
theorem of_reachable {ok : Sys → Choice → Prop} (h : Sys.ReachableBy env cfg ok w) : w.Sound :=
  h.invariant initial fun _ _ _ hsound _ hstep => hsound.step (stepTo_of_step hstep)

end Sys.Sound

/-- **The store only grows**, whatever the system does. -/
theorem extends_step (hstep : StepTo env cfg w c w') : w.store.Extends w'.store := by
  cases hstep with
  | step i p role held op k ht =>
      by_cases hwrite : ∃ c, op = .write c
      · obtain ⟨c, rfl⟩ := hwrite
        exact extends_after c w.store
      · change w.store.Extends (Sys.exec env p op w).2.store
        rw [exec_store_of_ne_write fun c hc => hwrite ⟨c, hc⟩]
        exact .refl _
  | finish i t ht hended =>
      rw [store_afterEnd]
      exact .refl _
  | _ => exact .refl _

theorem extends_of_reaches {ok : Sys → Choice → Prop} {w₀ : Sys}
    (h : Reaches (Sys.step env cfg) ok w₀ w) : w₀.store.Extends w.store :=
  h.invariant (P := fun w => w₀.store.Extends w.store) (.refl _) fun _ _ _ hext _ hstep =>
    hext.trans (extends_step (stepTo_of_step hstep))

end steps

end AgentRuntimeOps.RootActions
